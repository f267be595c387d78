import RasterText.Text.Blank
import RasterText.Template.Token
set_option autoImplicit false

namespace RasterText

/-- An identifier between an opening and a closing delimiter, of either style. -/
def Marker.Complete (m : Marker) : Prop :=
  isIdentifier m.name = true ∧
    ∃ opener closer, (opener = ['@'] ∨ opener = ['$', '(']) ∧ (closer = '@' ∨ closer = ')') ∧
      m.written = opener ++ m.name ++ [closer]

theorem isIdentifierTail_of_head {c : Char} (h : isIdentifierHead c = true) :
    isIdentifierTail c = true := by
  simp [isIdentifierTail, h]

theorem isIdentifier_cons {c : Char} {r : Text} :
    isIdentifier (c :: r) = true ↔
      isIdentifierHead c = true ∧ ∀ d ∈ r, isIdentifierTail d = true := by
  simp [isIdentifier]

theorem isIdentifierTail_of_mem {name : Text} (hn : isIdentifier name = true) :
    ∀ c ∈ name, isIdentifierTail c = true := by
  cases name with
  | nil => simp
  | cons c r =>
    obtain ⟨hc, hr⟩ := isIdentifier_cons.1 hn
    exact List.forall_mem_cons.2 ⟨isIdentifierTail_of_head hc, hr⟩

theorem isIdentifier_identifierPrefix {s : Text} (h : identifierPrefix s ≠ []) :
    isIdentifier (identifierPrefix s) = true := by
  cases s with
  | nil => exact absurd rfl h
  | cons c r =>
    by_cases hc : isIdentifierHead c = true
    · have ht : ∀ d ∈ r.takeWhile isIdentifierTail, isIdentifierTail d = true :=
        List.all_eq_true.1 List.all_takeWhile
      rw [identifierPrefix, if_pos hc]
      exact isIdentifier_cons.2 ⟨hc, ht⟩
    · exact absurd (by simp [identifierPrefix, hc]) h

theorem identifierPrefix_eq {name : Text} (hn : isIdentifier name = true) {d : Char}
    (hd : isIdentifierTail d = false) (rest : Text) :
    identifierPrefix (name ++ d :: rest) = name := by
  cases name with
  | nil => simp [isIdentifier] at hn
  | cons c r =>
    obtain ⟨hc, hr⟩ := isIdentifier_cons.1 hn
    rw [List.cons_append, identifierPrefix, if_pos hc, List.takeWhile_append_of_pos hr]
    simp [hd]

theorem Marker.readBody_eq_some_iff {opener s rest : Text} {m : Marker} :
    Marker.readBody opener s = some (m, rest) ↔
      isIdentifier m.name = true ∧
        ∃ closer, (closer = '@' ∨ closer = ')') ∧ m.written = opener ++ m.name ++ [closer] ∧
          s = m.name ++ closer :: rest := by
  constructor
  · intro h
    have hs := identifierPrefix_append s
    have hi := isIdentifier_identifierPrefix (s := s)
    simp only [Marker.readBody] at h
    cases hp : identifierPrefix s with
    | nil => simp [hp] at h
    | cons c r =>
      rw [hp] at h hs hi
      simp only at h
      split at h
      · next rest' hd =>
        simp only [Option.some.injEq, Prod.mk.injEq] at h
        obtain ⟨rfl, rfl⟩ := h
        rw [hd] at hs
        exact ⟨hi (by simp), '@', .inl rfl, rfl, hs.symm⟩
      · next rest' hd =>
        simp only [Option.some.injEq, Prod.mk.injEq] at h
        obtain ⟨rfl, rfl⟩ := h
        rw [hd] at hs
        exact ⟨hi (by simp), ')', .inr rfl, rfl, hs.symm⟩
      · simp at h
  · rintro ⟨hn, closer, hc, hw, rfl⟩
    obtain ⟨written, name⟩ := m
    simp only at hn hw
    have ht : isIdentifierTail closer = false := by rcases hc with rfl | rfl <;> decide
    simp only [Marker.readBody, identifierPrefix_eq hn ht]
    cases name with
    | nil => simp [isIdentifier] at hn
    | cons c r =>
      have hd : List.drop (c :: r).length (c :: r ++ closer :: rest) = closer :: rest :=
        List.drop_left
      simp only [hd]
      rcases hc with rfl | rfl <;> simp [hw]

theorem Marker.read_eq_some_iff {s rest : Text} {m : Marker} :
    Marker.read s = some (m, rest) ↔ m.Complete ∧ s = m.written ++ rest := by
  constructor
  · intro h
    have hw := (Marker.read_written h).symm
    unfold Marker.read at h
    split at h
    · obtain ⟨hn, closer, hc, hm, -⟩ := Marker.readBody_eq_some_iff.1 h
      exact ⟨⟨hn, _, closer, .inl rfl, hc, hm⟩, hw⟩
    · obtain ⟨hn, closer, hc, hm, -⟩ := Marker.readBody_eq_some_iff.1 h
      exact ⟨⟨hn, _, closer, .inr rfl, hc, hm⟩, hw⟩
    · simp at h
  · rintro ⟨⟨hn, opener, closer, ho, hc, hw⟩, rfl⟩
    have hb : Marker.readBody opener (m.name ++ closer :: rest) = some (m, rest) :=
      Marker.readBody_eq_some_iff.2 ⟨hn, closer, hc, hw, rfl⟩
    rw [hw]
    rcases ho with rfl | rfl
    · simpa [Marker.read] using hb
    · simpa [Marker.read] using hb

theorem isIdentifierTail_eq (c : Char) :
    isIdentifierTail c =
      (c == '_' || (decide (65 ≤ c.val ∧ c.val ≤ 90) || 97 ≤ c.val && c.val ≤ 122) ||
        48 ≤ c.val && c.val ≤ 57) := rfl

theorem isBlank_eq_false_of_tail {c : Char} (h : isIdentifierTail c = true) :
    isBlank c = false := by
  have hv : c.toNat = 95 ∨ 48 ≤ c.toNat ∧ c.toNat ≤ 57 ∨ 65 ≤ c.toNat ∧ c.toNat ≤ 90 ∨
      97 ≤ c.toNat ∧ c.toNat ≤ 122 := by
    rw [isIdentifierTail_eq] at h
    simp only [Bool.or_eq_true, Bool.and_eq_true, decide_eq_true_eq, beq_iff_eq,
      UInt32.le_iff_toNat_le] at h
    rcases h with (rfl | ⟨h1, h2⟩ | ⟨h1, h2⟩) | ⟨h1, h2⟩
    · exact .inl rfl
    · exact .inr (.inr (.inl ⟨h1, h2⟩))
    · exact .inr (.inr (.inr ⟨h1, h2⟩))
    · exact .inr (.inl ⟨h1, h2⟩)
  simp only [isBlank, Bool.or_eq_false_iff, Bool.and_eq_false_iff, decide_eq_false_iff_not,
    beq_eq_false_iff_ne, UInt32.le_iff_toNat_le, ne_eq, ← UInt32.toNat_inj, Char.toNat_val,
    UInt32.reduceToNat]
  omega

theorem Marker.Complete.isBlank_eq_false {m : Marker} (h : m.Complete) :
    ∀ c ∈ m.written, isBlank c = false := by
  obtain ⟨hn, opener, closer, ho, hc, hw⟩ := h
  have hname : ∀ c ∈ m.name, isBlank c = false := fun c hm =>
    isBlank_eq_false_of_tail (isIdentifierTail_of_mem hn c hm)
  intro c hm
  rw [hw] at hm
  rcases List.mem_append.1 hm with hm | hm
  · rcases List.mem_append.1 hm with hm | hm
    · rcases ho with rfl | rfl
      · rw [List.mem_singleton.1 hm]; decide
      · simp only [List.mem_cons, List.not_mem_nil, or_false] at hm
        rcases hm with rfl | rfl <;> decide
    · exact hname c hm
  · rw [List.mem_singleton.1 hm]
    rcases hc with rfl | rfl <;> decide

theorem Marker.Complete.written_ne_nil {m : Marker} (h : m.Complete) : m.written ≠ [] := by
  obtain ⟨-, opener, closer, -, -, hw⟩ := h
  simp [hw]

end RasterText
