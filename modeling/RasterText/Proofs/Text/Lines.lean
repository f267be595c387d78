import Mathlib.Data.List.DropRight
import RasterText.Text.Lines
set_option autoImplicit false

namespace RasterText

/-- Line feeds are the only line ends. -/
def OnlyLineFeeds (s : Text) : Prop := ∀ c ∈ s, isLineEnd c = true → c = '\n'

/-- The line and the column, both counted from one, of what follows a text. -/
def placeAfter (before : Text) : Text :=
  decimal (before.count '\n' + 1) ++ ':' :: decimal ((before.rtakeWhile (· ≠ '\n')).length + 1)

theorem decide_ne_of_mem {d : Char} {t : Text} (h : d ∉ t) : ∀ c ∈ t, decide (c ≠ d) = true :=
  fun c hc => decide_eq_true fun hcd : c = d => h (hcd ▸ hc)

section Pieces

variable {s line rest : Text}

theorem OnlyLineFeeds.right (h : OnlyLineFeeds (line ++ rest)) : OnlyLineFeeds rest :=
  fun c hc => h c (List.mem_append_right _ hc)

theorem OnlyLineFeeds.isLineEnd_eq_false (h : OnlyLineFeeds (line ++ rest)) (hl : '\n' ∉ line) :
    ∀ c ∈ line, isLineEnd c = false := by
  intro c hc
  by_contra hend
  have hn := h c (List.mem_append_left _ hc) (by simpa using hend)
  exact hl (hn ▸ hc)

theorem splitLines_cons {c : Char} (hc : isLineEnd c = false) (r : Text) :
    splitLines (c :: r) = (c :: (splitLines r).headD []) :: (splitLines r).tail := by
  have hr : c ≠ '\r' := by rintro rfl; cases hc
  rw [splitLines]
  · rw [hc]
    cases splitLines r <;> rfl
  · rintro _ rfl
    exact absurd rfl hr

theorem splitLines_line (h : ∀ c ∈ line, isLineEnd c = false) (rest : Text) :
    splitLines (line ++ '\n' :: rest) = (line ++ ['\n']) :: splitLines rest := by
  induction line with
  | nil => rfl
  | cons c line ih =>
    have ih := ih fun d hd => h d (List.mem_cons_of_mem _ hd)
    rw [List.cons_append, splitLines_cons (h c List.mem_cons_self), ih]
    rfl

theorem splitLines_last (h : ∀ c ∈ line, isLineEnd c = false) (hne : line ≠ []) :
    splitLines line = [line] := by
  induction line with
  | nil => exact absurd rfl hne
  | cons c line ih =>
    rw [splitLines_cons (h c List.mem_cons_self)]
    by_cases hl : line = []
    · subst hl
      rfl
    · rw [ih (fun d hd => h d (List.mem_cons_of_mem _ hd)) hl]
      rfl

theorem flatten_splitLines (s : Text) : (splitLines s).flatten = s := by
  induction s using splitLines.induct <;> simp_all [splitLines]

theorem splitLines_ne_nil (hne : s ≠ []) : splitLines s ≠ [] := by
  intro h
  have hs := flatten_splitLines s
  rw [h] at hs
  exact hne hs.symm

theorem exists_splitLines (h : OnlyLineFeeds (line ++ rest)) (hl : '\n' ∉ line) (hne : rest ≠ []) :
    ∃ piece pieces, splitLines (line ++ rest) = piece :: pieces ∧ line.length < piece.length := by
  have hline := h.isLineEnd_eq_false hl
  by_cases hr : '\n' ∈ rest
  · obtain ⟨front, back, rfl, hf⟩ := List.eq_append_cons_of_mem hr
    have hfront := h.right.isLineEnd_eq_false hf
    refine ⟨line ++ front ++ ['\n'], splitLines back, ?_, by simp⟩
    rw [← List.append_assoc, splitLines_line]
    exact fun c hc => (List.mem_append.1 hc).elim (hline c) (hfront c)
  · have hrest : ∀ c ∈ rest, isLineEnd c = false := by
      have h' := h.right
      rw [← List.append_nil rest] at h'
      exact h'.isLineEnd_eq_false hr
    have hpos := List.length_pos_iff.2 hne
    refine ⟨line ++ rest, [], splitLines_last ?_ (by simp [hne]), by simp; omega⟩
    exact fun c hc => (List.mem_append.1 hc).elim (hline c) (hrest c)

end Pieces

namespace Line

variable {number offset place : Nat} {piece : Text} {pieces : List Text} {line other : Line}

theorem le_of_mem_ofPieces (h : line ∈ ofPieces number offset pieces) :
    number ≤ line.number ∧ offset ≤ line.offset := by
  induction pieces generalizing number offset with
  | nil => cases h
  | cons piece rest ih =>
    rcases List.mem_cons.1 h with rfl | h
    · exact ⟨Nat.le_refl _, Nat.le_refl _⟩
    · have := ih h
      omega

theorem eq_of_number_eq (h : line ∈ ofPieces number offset pieces)
    (ho : other ∈ ofPieces number offset pieces) (hn : line.number = other.number) :
    line = other := by
  induction pieces generalizing number offset with
  | nil => cases h
  | cons piece rest ih =>
    rcases List.mem_cons.1 h with rfl | h <;> rcases List.mem_cons.1 ho with rfl | ho
    · rfl
    · have := (le_of_mem_ofPieces ho).1
      simp only at hn
      omega
    · have := (le_of_mem_ofPieces h).1
      simp only at hn
      omega
    · exact ih h ho

theorem stop_of_getLast? (h : (ofPieces number offset pieces).getLast? = some line) :
    line.stop = offset + pieces.flatten.length := by
  induction pieces generalizing number offset with
  | nil => cases h
  | cons piece rest ih =>
    cases rest with
    | nil =>
      simp only [ofPieces, List.getLast?_singleton, Option.some.injEq] at h
      subst h
      simp [stop]
    | cons next rest =>
      rw [ofPieces, ofPieces, List.getLast?_cons_cons] at h
      rw [ih h]
      simp [Nat.add_assoc]

theorem mem_of_find? {lines : List Line} (h : find? lines place = some line) :
    line ∈ lines ∧ line.offset ≤ place := by
  unfold find? at h
  split at h
  · split at h
    · simpa using List.mem_of_getLast? h
    · cases h
  · cases h

theorem isSome_find?_ofPieces (hne : pieces ≠ []) (ho : offset ≤ place) :
    (find? (ofPieces number offset pieces) place).isSome ↔
      place ≤ offset + pieces.flatten.length := by
  obtain ⟨piece, rest, rfl⟩ := List.exists_cons_of_ne_nil hne
  obtain ⟨last, hlast⟩ : ∃ last, (ofPieces number offset (piece :: rest)).getLast? = some last :=
    Option.ne_none_iff_exists'.1 (by simp [ofPieces])
  rw [find?, hlast, ← stop_of_getLast? hlast]
  by_cases hle : place ≤ last.stop
  · simpa [hle] using ⟨_, List.mem_cons_self, ho⟩
  · simp [hle]

theorem find?_ofPieces_of_lt (ho : offset ≤ place) (h : place < offset + piece.length) :
    find? (ofPieces number offset (piece :: pieces)) place = some ⟨number, offset, piece⟩ := by
  have hrest : ∀ line ∈ ofPieces (number + 1) (offset + piece.length) pieces,
      ¬line.offset ≤ place := fun line hl => by
    have := (le_of_mem_ofPieces hl).2
    omega
  have hfilter : ((ofPieces number offset (piece :: pieces)).filter
      fun line => line.offset ≤ place) = [⟨number, offset, piece⟩] := by
    rw [ofPieces, List.filter_cons_of_pos (by simpa using ho),
      List.filter_eq_nil_iff.2 (by simpa using hrest)]
  have hsome : (find? (ofPieces number offset (piece :: pieces)) place).isSome :=
    (isSome_find?_ofPieces (List.cons_ne_nil _ _) ho).2 (by simp; omega)
  obtain ⟨line, hline⟩ := Option.isSome_iff_exists.1 hsome
  have hmem := mem_of_find? hline
  have : line ∈ (ofPieces number offset (piece :: pieces)).filter
      fun line => line.offset ≤ place := by simpa using hmem
  rw [hfilter, List.mem_singleton] at this
  rw [hline, this]

theorem find?_ofPieces_of_le (h : offset + piece.length ≤ place) (hne : pieces ≠ []) :
    find? (ofPieces number offset (piece :: pieces)) place =
      find? (ofPieces (number + 1) (offset + piece.length) pieces) place := by
  obtain ⟨next, rest, rfl⟩ := List.exists_cons_of_ne_nil hne
  have ho : offset ≤ place := by omega
  simp [find?, ofPieces, h, ho]

theorem isSome_find?_ofText (s : Text) : (find? (ofText s) place).isSome ↔ place ≤ s.length := by
  unfold ofText
  split
  · next hs => simp [isSome_find?_ofPieces, hs]
  · next hs => simp [isSome_find?_ofPieces (splitLines_ne_nil hs), flatten_splitLines]

theorem rtakeWhile_append_lineFeed (front back : Text) :
    (front ++ '\n' :: back).rtakeWhile (· ≠ '\n') = back.rtakeWhile (· ≠ '\n') := by
  induction back using List.reverseRecOn with
  | nil => simp
  | append_singleton back c ih =>
    rw [← List.cons_append, ← List.append_assoc, List.rtakeWhile_concat, List.rtakeWhile_concat, ih]

theorem find?_ofPieces_append (number offset : Nat) {before rest : Text}
    (h : OnlyLineFeeds (before ++ rest)) (hne : rest ≠ []) : ∃ line,
      find? (ofPieces number offset (splitLines (before ++ rest))) (offset + before.length) =
        some line ∧
      line.number = number + before.count '\n' ∧
      line.offset + (before.rtakeWhile (· ≠ '\n')).length = offset + before.length := by
  induction hn : before.length using Nat.strong_induction_on
    generalizing before number offset with
  | _ n ih =>
    subst hn
    by_cases hb : '\n' ∈ before
    · obtain ⟨front, back, rfl, hf⟩ := List.eq_append_cons_of_mem hb
      rw [List.append_assoc, List.cons_append] at h ⊢
      have hback : OnlyLineFeeds (back ++ rest) := fun c hc => h c (by simp_all)
      obtain ⟨line, hline, hnumber, hcolumn⟩ := ih back.length (by simp; omega) (number + 1)
        (offset + (front ++ ['\n']).length) hback rfl
      rw [splitLines_line (h.isLineEnd_eq_false hf), find?_ofPieces_of_le (by simp)
        (splitLines_ne_nil (by simp [hne])), rtakeWhile_append_lineFeed]
      refine ⟨line, ?_, ?_, ?_⟩
      · rw [← hline]
        congr 1
        simp
        omega
      · simp [hnumber, List.count_eq_zero_of_not_mem hf]
        omega
      · simp at hcolumn ⊢
        omega
    · obtain ⟨piece, pieces, hs, hlt⟩ := exists_splitLines h hb hne
      refine ⟨⟨number, offset, piece⟩, ?_, ?_, ?_⟩
      · rw [hs, find?_ofPieces_of_lt (Nat.le_add_right _ _) (by omega)]
      · simp [List.count_eq_zero_of_not_mem hb]
      · rw [List.rtakeWhile_eq_self_iff.2 (decide_ne_of_mem hb)]

theorem find?_ofText_append {before rest : Text} (h : OnlyLineFeeds (before ++ rest))
    (hne : rest ≠ []) : ∃ line, find? (ofText (before ++ rest)) before.length = some line ∧
      line.number = before.count '\n' ∧
      line.offset + (before.rtakeWhile (· ≠ '\n')).length = before.length := by
  have hs : before ++ rest ≠ [] := by simp [hne]
  simpa [ofText, hs] using find?_ofPieces_append 0 0 h hne

end Line

end RasterText
