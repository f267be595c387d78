import RasterText.Proofs.Template.Grammar
set_option autoImplicit false

/-!
The parser builds the tree that the grammar tells of: it cuts at first end markers, and trimming a
body touches only the two edges because no token is empty text.
-/

namespace RasterText

theorem splitAtEnd_eq_some {name : Text} {l body after : List Lexeme} {stop : Span}
    (h : splitAtEnd name l = some (body, stop, after)) :
    l = body ++ ⟨.blockEnd name, stop⟩ :: after ∧ ∀ x ∈ body, x.token ≠ .blockEnd name := by
  induction l generalizing body with
  | nil => simp [splitAtEnd] at h
  | cons x rest ih =>
    simp only [splitAtEnd] at h
    split at h
    · next hx =>
      simp only [Option.some.injEq, Prod.mk.injEq] at h
      obtain ⟨rfl, rfl, rfl⟩ := h
      simp [← hx]
    · next hx =>
      simp only [Option.map_eq_some_iff, Prod.mk.injEq, Prod.exists] at h
      obtain ⟨body', stop', after', hs, rfl, rfl, rfl⟩ := h
      obtain ⟨rfl, hb⟩ := ih hs
      simp only [List.cons_append, List.mem_cons, forall_eq_or_imp, true_and]
      exact ⟨hx, hb⟩

theorem splitAtEnd_eq_none {name : Text} {l : List Lexeme} (h : splitAtEnd name l = none) :
    ∀ x ∈ l, x.token ≠ .blockEnd name := by
  induction l with
  | nil => simp
  | cons x rest ih =>
    simp only [splitAtEnd] at h
    split at h
    · simp at h
    · next hx =>
      simp only [Option.map_eq_none_iff] at h
      simpa using ⟨hx, ih h⟩

theorem consChar_ne_empty (c : Char) (start : Nat) {l : List Lexeme}
    (h : ∀ x ∈ l, x.token ≠ .text []) : ∀ x ∈ Lexeme.consChar c start l, x.token ≠ .text [] := by
  unfold Lexeme.consChar
  split
  · simp only [List.mem_cons, forall_eq_or_imp] at h ⊢
    exact ⟨by simp, h.2⟩
  · simpa using h

theorem ofIdentifier_ne_text (s value : Text) : Token.ofIdentifier s ≠ .text value := by
  intro h
  have hk := Token.keyword_ofIdentifier s
  rw [h] at hk
  simp [Token.keyword] at hk

theorem lexFrom_ne_empty (start : Nat) (s : Text) : ∀ x ∈ lexFrom start s, x.token ≠ .text [] := by
  fun_induction lexFrom start s with
  | case1 start s m rest h stop ih =>
    simpa using ⟨ofIdentifier_ne_text m.name [], ih⟩
  | case2 => simp
  | case3 start c r h ih => exact consChar_ne_empty c start ih

theorem isEmptyText_of_flattens {nodes : List Node} {tokens : List Token}
    (h : Flattens nodes tokens) (hne : ∀ t ∈ tokens, t ≠ .text []) :
    ∀ n ∈ nodes, n.isEmptyText = false := by
  induction h with
  | nil => simp
  | @text value span nodes tokens _ ih =>
    simp only [List.mem_cons, forall_eq_or_imp] at hne ⊢
    refine ⟨?_, ih hne.2⟩
    cases value with
    | nil => simp at hne
    | cons c value => rfl
  | tag _ ih | strayEnd _ ih | unclosed _ ih =>
    simp only [List.mem_cons, forall_eq_or_imp] at hne ⊢
    exact ⟨rfl, ih hne.2⟩
  | block _ _ _ ih =>
    simp only [List.mem_cons, List.mem_append, forall_eq_or_imp] at hne ⊢
    exact ⟨rfl, ih fun t ht => hne.2 t (by simp [ht])⟩

theorem filter_mapLast_trimEnd {nodes : List Node} (h : ∀ n ∈ nodes, n.isEmptyText = false) :
    (mapLast Node.trimEnd nodes).filter (fun n => !n.isEmptyText) =
      onLast (Node.trimText? Text.trimEnd) nodes := by
  induction nodes with
  | nil => rfl
  | cons n rest ih =>
    cases rest with
    | nil =>
      cases n with
      | text value span =>
        cases hv : Text.trimEnd value <;>
          simp [mapLast, onLast, Node.trimEnd, Node.trimText?, Node.isEmptyText, hv]
      | _ => rfl
    | cons m rest =>
      have hn := h n (by simp)
      have hr := ih fun k hk => h k (by simp [hk])
      rw [mapLast, onLast, ← hr]
      simp [hn]

theorem trimBody_eq_trimEdges {body : List Node} (h : ∀ n ∈ body, n.isEmptyText = false) :
    trimBody body = trimEdges body := by
  cases body with
  | nil => rfl
  | cons n rest =>
    have hrest : ∀ m ∈ rest, m.isEmptyText = false := fun m hm => h m (by simp [hm])
    cases n with
    | text value span =>
      by_cases hv : Text.trimStart value = []
      · have he : trimEdges (.text value span :: rest) =
            onLast (Node.trimText? Text.trimEnd) rest := by
          simp [trimEdges, onFirst, Node.trimText?, hv]
        rw [he, ← filter_mapLast_trimEnd hrest]
        cases rest with
        | nil => simp [trimBody, mapLast, Node.trimStart, Node.trimEnd, Node.isEmptyText, hv,
            Text.trimEnd]
        | cons m rest => simp [trimBody, mapLast, Node.trimStart, Node.isEmptyText, hv]
      · have he : trimEdges (.text value span :: rest) =
            onLast (Node.trimText? Text.trimEnd) (.text (Text.trimStart value) span :: rest) := by
          simp [trimEdges, onFirst, Node.trimText?, hv]
        have hall : ∀ m ∈ Node.text (Text.trimStart value) span :: rest,
            m.isEmptyText = false := by
          simp only [List.mem_cons, forall_eq_or_imp]
          exact ⟨by simp [Node.isEmptyText, hv], hrest⟩
        rw [he, ← filter_mapLast_trimEnd hall]
        rfl
    | _ => exact filter_mapLast_trimEnd h

def markerNodes (nodes : List Node) : List Node := nodes.filter fun n => !n.isText

theorem markerNodes_cons_text {node : Node} (h : node.isText = true) (rest : List Node) :
    markerNodes (node :: rest) = markerNodes rest := by
  simp [markerNodes, h]

theorem markerNodes_mapLast {f : Node → Node} (hf : ∀ n, f n = n ∨ (n.isText ∧ (f n).isText))
    (nodes : List Node) : markerNodes (mapLast f nodes) = markerNodes nodes := by
  induction nodes with
  | nil => rfl
  | cons n rest ih =>
    cases rest with
    | nil =>
      rcases hf n with h | ⟨h, ht⟩
      · rw [mapLast, h]
      · rw [mapLast, markerNodes_cons_text h, markerNodes_cons_text ht]
    | cons m rest =>
      simp only [markerNodes, mapLast, List.filter_cons] at ih ⊢
      rw [ih]

theorem markerNodes_trimBody (body : List Node) :
    markerNodes (trimBody body) = markerNodes body := by
  have hstart (n : Node) : n.trimStart = n ∨ (n.isText ∧ n.trimStart.isText) := by
    cases n with
    | text value span => exact .inr ⟨rfl, rfl⟩
    | _ => exact .inl rfl
  have hend (n : Node) : n.trimEnd = n ∨ (n.isText ∧ n.trimEnd.isText) := by
    cases n with
    | text value span => exact .inr ⟨rfl, rfl⟩
    | _ => exact .inl rfl
  have hempty (nodes : List Node) :
      markerNodes (nodes.filter fun n => !n.isEmptyText) = markerNodes nodes := by
    rw [markerNodes, List.filter_filter]
    refine List.filter_congr fun n _ => ?_
    cases n with
    | text value span => rfl
    | _ => rfl
  have hhead : markerNodes (body.modifyHead Node.trimStart) = markerNodes body := by
    cases body with
    | nil => rfl
    | cons n rest =>
      rcases hstart n with h | ⟨h, ht⟩
      · rw [List.modifyHead_cons, h]
      · rw [List.modifyHead_cons, markerNodes_cons_text h, markerNodes_cons_text ht]
  rw [trimBody, hempty, markerNodes_mapLast hend, hhead]

theorem flattens_parseLevel (enclosing : List (Text × Span)) (l : List Lexeme)
    (h : ∀ x ∈ l, x.token ≠ .text []) :
    Flattens (parseLevel enclosing l).1 (l.map Lexeme.token) := by
  fun_induction parseLevel enclosing l with
  | case1 => exact .nil
  | case2 enclosing value p rest nodes faults hp ih =>
    rw [hp] at ih
    exact .text (ih fun x hx => h x (by simp [hx]))
  | case3 enclosing name p rest nodes faults hp ih =>
    rw [hp] at ih
    exact .tag (ih fun x hx => h x (by simp [hx]))
  | case4 enclosing name p rest nodes faults hp ih =>
    rw [hp] at ih
    exact .strayEnd (ih fun x hx => h x (by simp [hx]))
  | case5 enclosing name p rest body stop after hs inner innerFaults hi nodes faults hp ihi iha =>
    obtain ⟨rfl, -⟩ := splitAtEnd_eq_some hs
    have hb : ∀ x ∈ body, x.token ≠ .text [] := fun x hx => h x (by simp [hx])
    have hinner := ihi hb
    have hafter := iha fun x hx => h x (by simp [hx])
    rw [hi] at hinner
    rw [hp] at hafter
    have hne : ∀ t ∈ body.map Lexeme.token, t ≠ .text [] := by simpa using hb
    rw [trimBody_eq_trimEdges (isEmptyText_of_flattens hinner hne), List.map_cons,
      List.map_append, List.map_cons]
    exact .block hinner hafter
  | case6 enclosing name p rest hs nodes faults hp ih =>
    rw [hp] at ih
    exact .unclosed (ih fun x hx => h x (by simp [hx]))

theorem paired_parseLevel (enclosing : List (Text × Span)) (l : List Lexeme)
    (h : ∀ x ∈ l, x.token ≠ .text []) : Paired (parseLevel enclosing l).1 := by
  fun_induction parseLevel enclosing l with
  | case1 => trivial
  | case2 enclosing value p rest nodes faults hp ih
  | case3 enclosing name p rest nodes faults hp ih
  | case4 enclosing name p rest nodes faults hp ih =>
    rw [hp] at ih
    exact ⟨trivial, ih fun x hx => h x (by simp [hx])⟩
  | case5 enclosing name p rest body stop after hs inner innerFaults hi nodes faults hp ihi iha =>
    obtain ⟨rfl, hno⟩ := splitAtEnd_eq_some hs
    have hb : ∀ x ∈ body, x.token ≠ .text [] := fun x hx => h x (by simp [hx])
    have hflat := flattens_parseLevel (enclosing ++ [(name, p)]) body hb
    have hinner := ihi hb
    have hafter := iha fun x hx => h x (by simp [hx])
    rw [hi] at hinner hflat
    rw [hp] at hafter
    have hne : ∀ t ∈ body.map Lexeme.token, t ≠ .text [] := by simpa using hb
    rw [trimBody_eq_trimEdges (isEmptyText_of_flattens hflat hne)]
    refine ⟨⟨?_, (paired_trimEdges inner).2 hinner⟩, hafter⟩
    rw [blockEnd_mem_flattenNodes, markersOf_trimEdges, ← blockEnd_mem_flattenNodes,
      hflat.blockEnd_mem]
    simpa using hno
  | case6 enclosing name p rest hs nodes faults hp ih =>
    have hr : ∀ x ∈ rest, x.token ≠ .text [] := fun x hx => h x (by simp [hx])
    have hflat := flattens_parseLevel enclosing rest hr
    have hrest := ih hr
    rw [hp] at hrest hflat
    refine ⟨?_, hrest⟩
    rw [Node.PairedBefore, hflat.blockEnd_mem]
    simpa using splitAtEnd_eq_none hs

/-- The tree of a template is the one tree, up to spans, that is flattened to the tokens of the
template and pairs every start marker with the first end marker that its level allows. -/
theorem parseLevel_unique (s : Text) :
    let tokens := (lex s).map Lexeme.token
    let nodes := (parseLevel [] (lex s)).1
    Flattens nodes tokens ∧ Paired nodes ∧
      (∀ other, Flattens other tokens → Paired other → bareNodes other = bareNodes nodes) ∧
      markersOf nodes = tokens.filter fun t => t.keyword.isSome := by
  intro tokens nodes
  have hne := lexFrom_ne_empty 0 s
  have hf := flattens_parseLevel [] (lex s) hne
  have hp := paired_parseLevel [] (lex s) hne
  exact ⟨hf, hp, fun other fo po => fo.unique hf po hp, hf.markersOf_eq⟩

end RasterText
