import Mathlib.Data.List.DropRight
import RasterText.Proofs.Template.Interior
import RasterText.Proofs.Template.Writing
set_option autoImplicit false

/-!
The normal form of a template: its tree, written with one style of delimiters and without the blanks
that trimming takes away. It has the same tree, and so has every text with the same texts and
markers but for the blanks at the edges of bodies.
-/

namespace RasterText

namespace Text

theorem trimStart_trimEnd_trimStart (s : Text) :
    trimStart (trimEnd (trimStart s)) = trimEnd (trimStart s) := by
  cases h : trimStart s with
  | nil => rfl
  | cons c r =>
    have hc : isBlank c = false := by
      have hd := List.head?_dropWhile_not isBlank s
      rw [show s.dropWhile isBlank = c :: r from h] at hd
      simpa using hd
    have he := trimEnd_append_of_not_blank [] (List.cons_ne_nil c []) (by simpa using hc) r
    rw [List.nil_append, List.nil_append, List.singleton_append, List.singleton_append] at he
    rw [he]
    exact List.dropWhile_cons_of_neg (by simp [hc])

theorem trim_trim (s : Text) : trim (trim s) = trim s := by
  rw [trim, trim, trimStart_trimEnd_trimStart]
  exact List.rdropWhile_idempotent isBlank (trimStart s)

end Text

namespace NormalTokens

variable {tokens front back : List Token} {t : Token}

theorem exists_text (h : NormalTokens tokens) : ∃ s, tokensOf s = tokens :=
  ⟨writeTokens tokens, tokensOf_writeTokens h⟩

theorem trim (h : NormalTokens tokens) : NormalTokens (trimTokens tokens) := by
  obtain ⟨s, rfl⟩ := h.exists_text
  rw [← tokensOf_trim]
  exact normalTokens_tokensOf (Text.trim s)

theorem trim_trim (h : NormalTokens tokens) :
    trimTokens (trimTokens tokens) = trimTokens tokens := by
  obtain ⟨s, rfl⟩ := h.exists_text
  rw [← tokensOf_trim, ← tokensOf_trim, Text.trim_trim]

theorem of_cons (h : NormalTokens (t :: tokens)) : NormalTokens tokens where
  normal u hu := h.normal u (List.mem_cons_of_mem t hu)
  apart := (List.isChain_cons.1 h.apart).2

theorem of_append (h : NormalTokens (front ++ back)) : NormalTokens front ∧ NormalTokens back := by
  obtain ⟨hn, ha⟩ := h
  rw [List.forall_mem_append] at hn
  rw [List.isChain_append] at ha
  exact ⟨⟨hn.1, ha.1⟩, ⟨hn.2, ha.2.1⟩⟩

theorem cons_congr (h : NormalTokens (t :: tokens)) (hh : back.head? = tokens.head?)
    (hb : NormalTokens back) : NormalTokens (t :: back) where
  normal := List.forall_mem_cons.2 ⟨h.normal t List.mem_cons_self, hb.normal⟩
  apart := List.isChain_cons.2 ⟨by rw [hh]; exact (List.isChain_cons.1 h.apart).1, hb.apart⟩

end NormalTokens

section Flattening

variable {nodes : List Node} {tokens : List Token}

theorem Node.flatten_ne_nil (node : Node) : node.flatten ≠ [] := by
  cases node <;> simp [Node.flatten]

theorem flattenNodes_cons (node : Node) (rest : List Node) :
    flattenNodes (node :: rest) = node.flatten ++ flattenNodes rest := by rw [flattenNodes]

theorem flattenNodes_cons_ne_nil (node : Node) (rest : List Node) :
    flattenNodes (node :: rest) ≠ [] := by
  rw [flattenNodes]
  exact List.append_ne_nil_of_left_ne_nil node.flatten_ne_nil _

theorem onLast_append {α : Type} (f : α → Option α) (front : List α) {back : List α}
    (h : back ≠ []) : onLast f (front ++ back) = front ++ onLast f back := by
  obtain ⟨a, rest, rfl⟩ := List.exists_cons_of_ne_nil h
  exact onLast_append_cons f front a rest

theorem flattenNodes_onFirst (f : Text → Text) (nodes : List Node) :
    flattenNodes (onFirst (Node.trimText? f) nodes) =
      onFirst (Token.trimText? f) (flattenNodes nodes) := by
  cases nodes with
  | nil => rfl
  | cons node rest =>
    cases node with
    | text value span =>
      by_cases hv : f value = [] <;>
        simp [onFirst, Node.trimText?, Token.trimText?, flattenNodes, Node.flatten, hv]
    | _ => rfl

theorem flattenNodes_onLast (f : Text → Text) (nodes : List Node) :
    flattenNodes (onLast (Node.trimText? f) nodes) =
      onLast (Token.trimText? f) (flattenNodes nodes) := by
  induction nodes with
  | nil => rfl
  | cons node rest ih =>
    cases rest with
    | nil =>
      cases node with
      | text value span =>
        by_cases hv : f value = [] <;>
          simp [onLast, Node.trimText?, Token.trimText?, flattenNodes, Node.flatten, hv]
      | block name body span =>
        simp only [onLast, Node.trimText?, flattenNodes, Node.flatten, Option.toList_some,
          List.append_nil, ← List.cons_append]
        rw [onLast_append_cons]
        rfl
      | _ => rfl
    | cons next rest =>
      rw [onLast, flattenNodes_cons, ih, flattenNodes_cons node,
        onLast_append _ _ (flattenNodes_cons_ne_nil next rest)]

theorem flattenNodes_trimEdges (body : List Node) :
    flattenNodes (trimEdges body) = trimTokens (flattenNodes body) := by
  rw [trimEdges, flattenNodes_onLast, flattenNodes_onFirst, trimTokens]

namespace Flattens

theorem head?_flattenNodes (h : Flattens nodes tokens) :
    (flattenNodes nodes).head? = tokens.head? := by
  cases h <;> rfl

theorem bare (h : Flattens nodes tokens) : Flattens (bareNodes nodes) tokens := by
  induction h with
  | nil => exact .nil
  | text _ ih => exact ih.text
  | tag _ ih => exact ih.tag
  | strayEnd _ ih => exact ih.strayEnd
  | unclosed _ ih => exact ih.unclosed
  | block _ _ ihi iha =>
    rw [bareNodes, Node.bare, bareNodes_trimEdges]
    exact ihi.block iha

end Flattens

theorem normalTokens_flattenNodes (h : Flattens nodes tokens) (hn : NormalTokens tokens) :
    NormalTokens (flattenNodes nodes) := by
  induction h with
  | nil => exact hn
  | text hf ih | tag hf ih | strayEnd hf ih | unclosed hf ih =>
    exact hn.cons_congr hf.head?_flattenNodes (ih hn.of_cons)
  | @block name span inner nodes tokens after hi ha ihi iha =>
    obtain ⟨ht, he⟩ := hn.of_cons.of_append
    have hbody : NormalTokens (flattenNodes (trimEdges inner)) := by
      rw [flattenNodes_trimEdges]
      exact (ihi ht).trim
    have hstart : (Token.blockStart name).Normal := hn.normal _ (by simp)
    have hend : (Token.blockEnd name).Normal := he.normal _ (by simp)
    have hrest := normalTokens_append hbody (by simp [Token.keyword]) hend (iha he.of_cons)
    have hnil : NormalTokens [] := ⟨by simp, .nil⟩
    have hall := normalTokens_append hnil (by simp [Token.keyword]) hstart hrest
    simpa [flattenNodes, Node.flatten] using hall

mutual

theorem Node.bare_bare (node : Node) : node.bare.bare = node.bare := by
  cases node with
  | block name body span => rw [Node.bare, Node.bare, bareNodes_bareNodes body]
  | _ => rfl

theorem bareNodes_bareNodes (nodes : List Node) :
    bareNodes (bareNodes nodes) = bareNodes nodes := by
  cases nodes with
  | nil => rfl
  | cons node rest =>
    rw [bareNodes, bareNodes, Node.bare_bare node, bareNodes_bareNodes rest]

end

mutual

theorem Node.pairedBefore_bare (rest : List Node) (node : Node) :
    node.bare.PairedBefore (bareNodes rest) ↔ node.PairedBefore rest := by
  cases node with
  | block name body span =>
    rw [Node.bare, Node.PairedBefore, Node.PairedBefore, flattenNodes_bareNodes,
      paired_bareNodes body]
  | unclosed name span =>
    rw [Node.bare, Node.PairedBefore, Node.PairedBefore, flattenNodes_bareNodes]
  | _ => rfl

theorem paired_bareNodes (nodes : List Node) : Paired (bareNodes nodes) ↔ Paired nodes := by
  cases nodes with
  | nil => rfl
  | cons node rest =>
    rw [bareNodes, Paired, Paired, Node.pairedBefore_bare rest node, paired_bareNodes rest]

end

theorem flattens_flattenNodes (h : Flattens nodes tokens) (hn : NormalTokens tokens)
    (hp : Paired nodes) : Flattens (bareNodes nodes) (flattenNodes nodes) := by
  induction h with
  | nil => exact .nil
  | text _ ih => exact (ih hn.of_cons hp.2).text
  | tag _ ih => exact (ih hn.of_cons hp.2).tag
  | strayEnd _ ih => exact (ih hn.of_cons hp.2).strayEnd
  | unclosed _ ih => exact (ih hn.of_cons hp.2).unclosed
  | @block name span inner nodes tokens after hi ha ihi iha =>
    obtain ⟨ht, he⟩ := hn.of_cons.of_append
    have hinner : Paired inner := (paired_trimEdges inner).1 hp.1.2
    have hbody := (ihi ht hinner).trimEdges
    rw [← flattenNodes_trimEdges, ← bareNodes_trimEdges] at hbody
    -- the body is what it would be if it were trimmed once more
    have hagain : trimEdges (bareNodes (trimEdges inner)) = bareNodes (trimEdges inner) := by
      have htrim := hbody.trimEdges
      rw [flattenNodes_trimEdges, (normalTokens_flattenNodes hi ht).trim_trim,
        ← flattenNodes_trimEdges] at htrim
      have hpaired : Paired (bareNodes (trimEdges inner)) := (paired_bareNodes _).2 hp.1.2
      have he := htrim.unique hbody ((paired_trimEdges _).2 hpaired) hpaired
      rwa [bareNodes_trimEdges, bareNodes_bareNodes] at he
    have hblock : Flattens (.block name (trimEdges (bareNodes (trimEdges inner))) ⟨0, 0⟩ :: _)
        (.blockStart name :: _) := hbody.block (iha he.of_cons hp.2)
    rw [hagain] at hblock
    simpa [flattenNodes, Node.flatten, bareNodes, Node.bare] using hblock

end Flattening

/-- The tree as a text: every text as it is, and every marker with a dollar sign and parentheses. -/
def writeNodes (nodes : List Node) : Text := writeTokens (flattenNodes nodes)

theorem writeNodes_bareNodes (nodes : List Node) :
    writeNodes (bareNodes nodes) = writeNodes nodes := by
  rw [writeNodes, flattenNodes_bareNodes, writeNodes]

section Reading

variable {s t : Text} {nodes : List Node}

theorem flattens_of_parse (h : parse s = .ok nodes) :
    Flattens nodes (tokensOf s) ∧ Paired nodes := by
  obtain ⟨rfl, -⟩ := parse_eq_ok_iff.1 h
  exact ⟨flattens_lexFrom [] 0 s, paired_parseLevel [] _ (lexFrom_ne_empty 0 s)⟩

theorem exists_parse_iff (h : parse s = .ok nodes) :
    (∃ other, parse t = .ok other ∧ bareNodes other = bareNodes nodes) ↔
      Flattens (bareNodes nodes) (tokensOf t) := by
  constructor
  · rintro ⟨other, ho, hb⟩
    rw [← hb]
    exact (flattens_of_parse ho).1.bare
  · intro hf
    have hp := (paired_bareNodes nodes).2 (flattens_of_parse h).2
    have hb := hf.unique (flattens_lexFrom [] 0 t) hp
      (paired_parseLevel [] _ (lexFrom_ne_empty 0 t))
    rw [bareNodes_bareNodes] at hb
    refine ⟨_, parse_eq_ok_iff.2 ⟨rfl, ?_⟩, hb.symm⟩
    have honce := (openedOnce_bareNodes nodes).2 (parse_eq_ok_iff.1 h).2
    rw [hb] at honce
    exact (openedOnce_bareNodes _).1 honce

theorem tokensOf_writeNodes (h : parse s = .ok nodes) :
    tokensOf (writeNodes nodes) = flattenNodes nodes :=
  tokensOf_writeTokens (normalTokens_flattenNodes (flattens_of_parse h).1 (normalTokens_tokensOf s))

theorem exists_parse_writeNodes (h : parse s = .ok nodes) :
    ∃ again, parse (writeNodes nodes) = .ok again ∧ bareNodes again = bareNodes nodes := by
  obtain ⟨hf, hp⟩ := flattens_of_parse h
  rw [exists_parse_iff h, tokensOf_writeNodes h]
  exact flattens_flattenNodes hf (normalTokens_tokensOf s) hp

end Reading

/-- The normal form of a template has the tree of the template, and is its own normal form. Other
delimiters around the same markers make no difference to the tree, and the texts with this tree are
those whose tokens are the tokens of the tree, with any blanks at the edges of bodies. Templates
with the same normal form have the same tree. -/
theorem parse_writeNodes (s : Text) (nodes : List Node) (h : parse s = .ok nodes) :
    (∃ again, parse (writeNodes nodes) = .ok again ∧ bareNodes again = bareNodes nodes ∧
      writeNodes again = writeNodes nodes) ∧
    (∀ t, (lex t).map Lexeme.token = (lex s).map Lexeme.token →
      ∃ other, parse t = .ok other ∧ bareNodes other = bareNodes nodes) ∧
    (∀ t, (∃ other, parse t = .ok other ∧ bareNodes other = bareNodes nodes) ↔
      Flattens (bareNodes nodes) ((lex t).map Lexeme.token)) ∧
    ∀ t other, parse t = .ok other →
      (writeNodes other = writeNodes nodes ↔ bareNodes other = bareNodes nodes) := by
  obtain ⟨again, ha, hb⟩ := exists_parse_writeNodes h
  have hsame {other : List Node} (ho : bareNodes other = bareNodes nodes) :
      writeNodes other = writeNodes nodes := by
    rw [← writeNodes_bareNodes, ho, writeNodes_bareNodes]
  refine ⟨⟨again, ha, hb, hsame hb⟩, fun t ht => ?_, fun t => exists_parse_iff h,
    fun t other ho => ⟨fun hw => ?_, hsame⟩⟩
  · refine (exists_parse_iff h).2 ?_
    rw [show tokensOf t = tokensOf s from ht]
    exact (flattens_of_parse h).1.bare
  · obtain ⟨more, hm, hmb⟩ := exists_parse_writeNodes ho
    rw [hw, ha] at hm
    cases hm
    rw [← hmb, hb]

def interleavedTemplate : Text :=
  "$(b@@start_block_x@\n @t) @start_block_y)\t@end_block_x) $(\n$(end_block_y)$".toList

theorem parse_writeNodes_interleaved :
    let nodes : List Node :=
      [.tag ['b'] ⟨0, 4⟩,
        .block ['x'] [.tag ['t'] ⟨21, 24⟩, .text [' '] ⟨24, 25⟩, .unclosed ['y'] ⟨25, 40⟩] ⟨4, 54⟩,
        .text " $(\n".toList ⟨54, 58⟩, .strayEnd ['y'] ⟨58, 72⟩, .text ['$'] ⟨72, 73⟩]
    parse interleavedTemplate = .ok nodes ∧
      writeNodes nodes =
        "$(b)$(start_block_x)$(t) $(start_block_y)$(end_block_x) $(\n$(end_block_y)$".toList ∧
      ∃ again, parse (writeNodes nodes) = .ok again ∧ bareNodes again = bareNodes nodes ∧
        writeNodes again = writeNodes nodes := by
  intro nodes
  have hp : parse interleavedTemplate = .ok nodes := by cbv
  exact ⟨hp, by decide, (parse_writeNodes interleavedTemplate nodes hp).1⟩

end RasterText
