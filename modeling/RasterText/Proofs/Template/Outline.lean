import RasterText.Proofs.Template.Lexing
set_option autoImplicit false

namespace RasterText

namespace Text

theorem trimEnd_append (s t : Text) :
    trimEnd (s ++ t) = if trimEnd t = [] then trimEnd s else s ++ trimEnd t := by
  simp only [trimEnd, List.reverse_append, List.dropWhile_append, List.isEmpty_iff,
    List.reverse_eq_nil_iff]
  split <;> simp

theorem trimEnd_of_not_blank {w : Text} (h : ∀ c ∈ w, isBlank c = false) : trimEnd w = w := by
  cases hw : w.reverse with
  | nil => rw [List.reverse_eq_nil_iff.1 hw]; rfl
  | cons c r =>
    have hc : isBlank c = false := h c (by rw [← List.mem_reverse, hw]; simp)
    rw [trimEnd, hw, List.dropWhile_cons_of_neg (by simp [hc]), ← hw, List.reverse_reverse]

theorem trimEnd_append_of_not_blank (s : Text) {w : Text} (hn : w ≠ [])
    (hw : ∀ c ∈ w, isBlank c = false) (t : Text) :
    trimEnd (s ++ (w ++ t)) = s ++ (w ++ trimEnd t) := by
  have h : trimEnd (w ++ t) = w ++ trimEnd t := by
    rw [trimEnd_append, trimEnd_of_not_blank hw]
    split
    · next ht => rw [ht, List.append_nil]
    · rfl
  rw [trimEnd_append, h, if_neg (by simp [hn])]

theorem exists_eq_trimEnd_append (s : Text) : ∃ t, s = trimEnd s ++ t := by
  refine ⟨(s.reverse.takeWhile isBlank).reverse, ?_⟩
  rw [trimEnd, ← List.reverse_append, List.takeWhile_append_dropWhile, List.reverse_reverse]

theorem length_trim_le (s : Text) : (trim s).length ≤ s.length := by
  have hs : (trimStart s).length ≤ s.length := 
    (List.dropWhile_sublist isBlank).length_le
  obtain ⟨t, ht⟩ := exists_eq_trimEnd_append (trimStart s)
  have hl := congrArg List.length ht
  rw [List.length_append] at hl
  rw [trim]
  omega

end Text

theorem Marker.read_of_blank {c : Char} (h : isBlank c = true) (r : Text) :
    Marker.read (c :: r) = none := by
  cases hr : Marker.read (c :: r) with
  | none => rfl
  | some p =>
    obtain ⟨m, rest⟩ := p
    obtain ⟨hm, hs⟩ := Marker.read_eq_some_iff.1 hr
    cases hw : m.written with
    | nil => exact absurd hw hm.written_ne_nil
    | cons d w =>
      rw [hw, List.cons_append, List.cons.injEq] at hs
      have hb := hm.isBlank_eq_false d (by simp [hw])
      rw [← hs.1, h] at hb
      exact absurd hb (by decide)

theorem firstMarker?_trimStart (s : Text) :
    firstMarker? (Text.trimStart s) =
      (firstMarker? s).map fun (before, m, rest) => (Text.trimStart before, m, rest) := by
  induction s with
  | nil => rfl
  | cons c r ih =>
    by_cases hc : isBlank c = true
    · have ht (t : Text) : Text.trimStart (c :: t) = Text.trimStart t :=
        List.dropWhile_cons_of_pos hc
      rw [ht, ih, firstMarker?_cons (Marker.read_of_blank hc r), Option.map_map]
      congr 1
      funext p
      exact congrArg (fun b => (b, p.2)) (ht p.1).symm
    · have ht (t : Text) : Text.trimStart (c :: t) = c :: t := List.dropWhile_cons_of_neg hc
      rw [ht]
      cases hr : Marker.read (c :: r) with
      | some p => rw [firstMarker?_of_read hr]; rfl
      | none =>
        rw [firstMarker?_cons hr, Option.map_map]
        congr 1
        funext p
        exact congrArg (fun b => (b, p.2)) (ht p.1).symm

theorem firstMarker?_trimEnd_of_none {s : Text} (h : firstMarker? s = none) :
    firstMarker? (Text.trimEnd s) = none := by
  obtain ⟨t, ht⟩ := Text.exists_eq_trimEnd_append s
  rw [ht] at h
  exact firstMarker?_eq_none_of_append h

theorem firstMarker?_trimEnd_of_some {s before rest : Text} {m : Marker}
    (h : firstMarker? s = some (before, m, rest)) :
    firstMarker? (Text.trimEnd s) = some (before, m, Text.trimEnd rest) := by
  obtain ⟨hm, rfl⟩ := firstMarker?_eq_some h
  obtain ⟨t, ht⟩ := Text.exists_eq_trimEnd_append rest
  rw [Text.trimEnd_append_of_not_blank before hm.written_ne_nil hm.isBlank_eq_false]
  refine firstMarker?_take (t := t) ?_
  rw [← ht]
  exact h

theorem firstMarker?_induction {P : Text → Prop} (last : ∀ s, firstMarker? s = none → P s)
    (next : ∀ s before m rest, firstMarker? s = some (before, m, rest) → P rest → P s)
    (s : Text) : P s := by
  cases h : firstMarker? s with
  | none => exact last s h
  | some p =>
    obtain ⟨before, m, rest⟩ := p
    have hl := length_of_firstMarker? h
    exact next s before m rest h (firstMarker?_induction last next rest)
termination_by s.length
decreasing_by omega

def tokensOf (s : Text) : List Token := (lexFrom 0 s).map Lexeme.token

def textToken (s : Text) : List Token := if s = [] then [] else [.text s]

theorem map_token_textLexeme (start : Nat) (s : Text) :
    (textLexeme start s).map Lexeme.token = textToken s := by
  by_cases h : s = [] <;> simp [textLexeme, textToken, h]

theorem map_token_lexFrom (start : Nat) (s : Text) :
    (lexFrom start s).map Lexeme.token = tokensOf s := by
  unfold tokensOf
  induction s using firstMarker?_induction generalizing start with
  | last s h =>
    rw [lexFrom_of_none h, lexFrom_of_none h, map_token_textLexeme, map_token_textLexeme]
  | next s before m rest h ih =>
    rw [lexFrom_of_some h, lexFrom_of_some h]
    simp only [List.map_append, List.map_cons, map_token_textLexeme]
    rw [ih, ih (0 + Text.byteSize before + Text.byteSize m.written)]

theorem tokensOf_of_none {s : Text} (h : firstMarker? s = none) : tokensOf s = textToken s := by
  rw [tokensOf, lexFrom_of_none h, map_token_textLexeme]

theorem tokensOf_of_some {s before rest : Text} {m : Marker}
    (h : firstMarker? s = some (before, m, rest)) :
    tokensOf s = textToken before ++ .ofIdentifier m.name :: tokensOf rest := by
  rw [tokensOf, lexFrom_of_some h, List.map_append, List.map_cons, map_token_textLexeme,
    map_token_lexFrom]

def Token.trimText? (f : Text → Text) : Token → Option Token
  | .text value => if f value = [] then none else some (.text (f value))
  | token => some token

def trimTokens (tokens : List Token) : List Token :=
  onLast (Token.trimText? Text.trimEnd) (onFirst (Token.trimText? Text.trimStart) tokens)

theorem Token.trimText?_ofIdentifier (f : Text → Text) (name : Text) :
    (ofIdentifier name).trimText? f = some (ofIdentifier name) := by
  cases h : ofIdentifier name with
  | text value => exact absurd h (ofIdentifier_ne_text name value)
  | _ => rfl

theorem onLast_cons_of_fixed {α : Type} {f : α → Option α} {a : α} (h : f a = some a)
    (rest : List α) : onLast f (a :: rest) = a :: onLast f rest := by
  cases rest with
  | nil => simp [onLast, h]
  | cons b rest => rfl

theorem textToken_trimStart (s : Text) :
    textToken (Text.trimStart s) = onFirst (Token.trimText? Text.trimStart) (textToken s) := by
  by_cases h : s = []
  · rw [h]; rfl
  · by_cases ht : Text.trimStart s = [] <;> simp [textToken, onFirst, Token.trimText?, h, ht]

theorem textToken_trimEnd (s : Text) :
    textToken (Text.trimEnd s) = onLast (Token.trimText? Text.trimEnd) (textToken s) := by
  by_cases h : s = []
  · rw [h]; rfl
  · by_cases ht : Text.trimEnd s = [] <;> simp [textToken, onLast, Token.trimText?, h, ht]

theorem tokensOf_trimStart (s : Text) :
    tokensOf (Text.trimStart s) = onFirst (Token.trimText? Text.trimStart) (tokensOf s) := by
  have hf := firstMarker?_trimStart s
  cases h : firstMarker? s with
  | none =>
    rw [h] at hf
    rw [tokensOf_of_none h, tokensOf_of_none hf, textToken_trimStart]
  | some p =>
    obtain ⟨before, m, rest⟩ := p
    rw [h] at hf
    rw [tokensOf_of_some h, tokensOf_of_some hf, textToken_trimStart]
    by_cases hb : before = []
    · simp [textToken, hb, onFirst, Token.trimText?_ofIdentifier]
    · simp [textToken, hb, onFirst]

theorem tokensOf_trimEnd (s : Text) :
    tokensOf (Text.trimEnd s) = onLast (Token.trimText? Text.trimEnd) (tokensOf s) := by
  induction s using firstMarker?_induction with
  | last s h =>
    rw [tokensOf_of_none h, tokensOf_of_none (firstMarker?_trimEnd_of_none h), textToken_trimEnd]
  | next s before m rest h ih =>
    rw [tokensOf_of_some h, tokensOf_of_some (firstMarker?_trimEnd_of_some h), ih,
      onLast_append_cons, onLast_cons_of_fixed (Token.trimText?_ofIdentifier _ m.name)]

theorem tokensOf_trim (s : Text) : tokensOf (Text.trim s) = trimTokens (tokensOf s) := by
  rw [Text.trim, tokensOf_trimEnd, tokensOf_trimStart, trimTokens]

namespace Flattens

variable {nodes : List Node} {tokens : List Token}

theorem onFirst_trimText (f : Text → Text) (h : Flattens nodes tokens) :
    Flattens (onFirst (Node.trimText? f) nodes) (onFirst (Token.trimText? f) tokens) := by
  cases h with
  | nil => exact .nil
  | @text value span nodes tokens h =>
    by_cases hv : f value = []
    · simpa [onFirst, Node.trimText?, Token.trimText?, hv] using h
    · simpa [onFirst, Node.trimText?, Token.trimText?, hv] using h.text
  | tag h => exact h.tag
  | strayEnd h => exact h.strayEnd
  | unclosed h => exact h.unclosed
  | block hi ha => exact hi.block ha

theorem onLast_trimText (f : Text → Text) (h : Flattens nodes tokens) :
    Flattens (onLast (Node.trimText? f) nodes) (onLast (Token.trimText? f) tokens) := by
  have hnode {node : Node} (hn : node.trimText? f = some node) (rest : List Node) :=
    onLast_cons_of_fixed hn rest
  have htoken {token : Token} (ht : token.trimText? f = some token) (rest : List Token) :=
    onLast_cons_of_fixed ht rest
  induction h with
  | nil => exact .nil
  | @text value span nodes tokens h ih =>
    cases h with
    | nil =>
      by_cases hv : f value = []
      · simpa [onLast, Node.trimText?, Token.trimText?, hv] using Flattens.nil
      · simpa [onLast, Node.trimText?, Token.trimText?, hv] using Flattens.nil.text
    | _ => exact ih.text
  | tag _ ih =>
    rw [hnode rfl, htoken rfl]
    exact ih.tag
  | strayEnd _ ih =>
    rw [hnode rfl, htoken rfl]
    exact ih.strayEnd
  | unclosed _ ih =>
    rw [hnode rfl, htoken rfl]
    exact ih.unclosed
  | block hi _ _ ih =>
    rw [hnode rfl, htoken rfl, onLast_append_cons, htoken rfl]
    exact hi.block ih

theorem trimEdges (h : Flattens nodes tokens) : Flattens (trimEdges nodes) (trimTokens tokens) :=
  (h.onFirst_trimText Text.trimStart).onLast_trimText Text.trimEnd

end Flattens

/-- The tree of a text, without the places it was read from. -/
def outline (s : Text) : List Node := bareNodes (parseLevel [] (lex s)).1

def textNode (s : Text) : List Node := if s = [] then [] else [.text s ⟨0, 0⟩]

theorem flattens_lexFrom (enclosing : List (Text × Span)) (start : Nat) (s : Text) :
    Flattens (parseLevel enclosing (lexFrom start s)).1 (tokensOf s) := by
  rw [← map_token_lexFrom start s]
  exact flattens_parseLevel enclosing _ (lexFrom_ne_empty start s)

theorem bareNodes_parseLevel (enclosing : List (Text × Span)) (start : Nat) (s : Text) :
    bareNodes (parseLevel enclosing (lexFrom start s)).1 = outline s :=
  (flattens_lexFrom enclosing start s).unique (flattens_lexFrom [] 0 s)
    (paired_parseLevel enclosing _ (lexFrom_ne_empty start s))
    (paired_parseLevel [] _ (lexFrom_ne_empty 0 s))

theorem bareNodes_trimBody (enclosing : List (Text × Span)) (start : Nat) (s : Text) :
    bareNodes (trimBody (parseLevel enclosing (lexFrom start s)).1) = outline (Text.trim s) := by
  have hne := lexFrom_ne_empty start s
  have hf := flattens_lexFrom enclosing start s
  have htokens : ∀ t ∈ tokensOf s, t ≠ .text [] := by
    rw [← map_token_lexFrom start s]
    simpa using hne
  have htrim := hf.trimEdges
  rw [← tokensOf_trim] at htrim
  rw [trimBody_eq_trimEdges (isEmptyText_of_flattens hf htokens)]
  exact htrim.unique (flattens_lexFrom [] 0 (Text.trim s))
    ((paired_trimEdges _).2 (paired_parseLevel enclosing _ hne))
    (paired_parseLevel [] _ (lexFrom_ne_empty 0 (Text.trim s)))

theorem parseLevel_textLexeme (enclosing : List (Text × Span)) (start : Nat) (s : Text)
    (l : List Lexeme) : bareNodes (parseLevel enclosing (textLexeme start s ++ l)).1 =
      textNode s ++ bareNodes (parseLevel enclosing l).1 := by
  by_cases h : s = []
  · simp [textLexeme, textNode, h]
  · simp [textLexeme, textNode, h, parseLevel, bareNodes, Node.bare]

theorem outline_of_none {s : Text} (h : firstMarker? s = none) : outline s = textNode s := by
  have hl := parseLevel_textLexeme [] 0 s []
  rw [List.append_nil] at hl
  rw [outline, lex, lexFrom_of_none h, hl]
  simp [parseLevel, bareNodes]

section

variable {s before rest name : Text} {m : Marker}

theorem outline_of_tag (h : firstMarker? s = some (before, m, rest))
    (hm : Token.ofIdentifier m.name = .tag name) :
    outline s = textNode before ++ .tag name ⟨0, 0⟩ :: outline rest := by
  rw [outline, lex, lexFrom_of_some h, parseLevel_textLexeme, hm, parseLevel]
  simp only [bareNodes, Node.bare, bareNodes_parseLevel]

theorem outline_of_blockEnd (h : firstMarker? s = some (before, m, rest))
    (hm : Token.ofIdentifier m.name = .blockEnd name) :
    outline s = textNode before ++ .strayEnd name ⟨0, 0⟩ :: outline rest := by
  rw [outline, lex, lexFrom_of_some h, parseLevel_textLexeme, hm, parseLevel]
  simp only [bareNodes, Node.bare, bareNodes_parseLevel]

theorem outline_of_unclosed (h : firstMarker? s = some (before, m, rest))
    (hm : Token.ofIdentifier m.name = .blockStart name) (he : firstEnd? name rest = none) :
    outline s = textNode before ++ .unclosed name ⟨0, 0⟩ :: outline rest := by
  rw [outline, lex, lexFrom_of_some h, parseLevel_textLexeme, hm, parseLevel]
  split
  · next hs => simp [splitAtEnd_of_none he] at hs
  · simp only [bareNodes, Node.bare, bareNodes_parseLevel]

theorem outline_of_block {interior after : Text} (h : firstMarker? s = some (before, m, rest))
    (hm : Token.ofIdentifier m.name = .blockStart name)
    (he : firstEnd? name rest = some (interior, after)) :
    outline s = textNode before ++
      .block name (outline (Text.trim interior)) ⟨0, 0⟩ :: outline after := by
  rw [outline, lex, lexFrom_of_some h, parseLevel_textLexeme, hm, parseLevel]
  split
  · next body stop after' hs =>
    obtain ⟨stop', hsome⟩ := splitAtEnd_of_some he
      (0 + Text.byteSize before + Text.byteSize m.written)
    rw [hsome] at hs
    simp only [Option.some.injEq, Prod.mk.injEq] at hs
    obtain ⟨rfl, rfl, rfl⟩ := hs
    simp only [bareNodes, Node.bare, bareNodes_parseLevel, bareNodes_trimBody]
  · next hs =>
    obtain ⟨stop', hsome⟩ := splitAtEnd_of_some he
      (0 + Text.byteSize before + Text.byteSize m.written)
    rw [hsome] at hs
    cases hs

end

end RasterText
