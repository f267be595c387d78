import RasterText.Proofs.Template.Marker
import RasterText.Proofs.Template.Parsing
set_option autoImplicit false

namespace RasterText

/-- What stands before the first complete marker, the marker, and what follows it. -/
def firstMarker? (s : Text) : Option (Text × Marker × Text) :=
  match Marker.read s with
  | some (m, rest) => some ([], m, rest)
  | none =>
    match s with
    | [] => none
    | c :: r => (firstMarker? r).map fun (before, m, rest) => (c :: before, m, rest)

def textLexeme (start : Nat) (s : Text) : List Lexeme :=
  if s = [] then [] else [⟨.text s, ⟨start, start + Text.byteSize s⟩⟩]

theorem firstMarker?_of_read {s rest : Text} {m : Marker} (h : Marker.read s = some (m, rest)) :
    firstMarker? s = some ([], m, rest) := by
  unfold firstMarker?
  rw [h]

theorem firstMarker?_cons {c : Char} {r : Text} (h : Marker.read (c :: r) = none) :
    firstMarker? (c :: r) =
      (firstMarker? r).map fun (before, m, rest) => (c :: before, m, rest) := by
  rw [firstMarker?, h]

theorem firstMarker?_nil : firstMarker? [] = none := rfl

theorem firstMarker?_eq_some {s before rest : Text} {m : Marker}
    (h : firstMarker? s = some (before, m, rest)) :
    m.Complete ∧ s = before ++ (m.written ++ rest) := by
  induction s generalizing before with
  | nil => simp [firstMarker?_nil] at h
  | cons c r ih =>
    cases hr : Marker.read (c :: r) with
    | some p =>
      rw [firstMarker?_of_read hr] at h
      simp only [Option.some.injEq, Prod.mk.injEq] at h
      obtain ⟨rfl, rfl, rfl⟩ := h
      exact Marker.read_eq_some_iff.1 hr
    | none =>
      rw [firstMarker?_cons hr] at h
      simp only [Option.map_eq_some_iff, Prod.mk.injEq, Prod.exists] at h
      obtain ⟨before', m', rest', hf, rfl, rfl, rfl⟩ := h
      obtain ⟨hm, hs⟩ := ih hf
      exact ⟨hm, by rw [List.cons_append, ← hs]⟩

theorem length_of_firstMarker? {s before rest : Text} {m : Marker}
    (h : firstMarker? s = some (before, m, rest)) :
    before.length + rest.length < s.length := by
  obtain ⟨hm, rfl⟩ := firstMarker?_eq_some h
  have hw := List.length_pos_iff.2 hm.written_ne_nil
  simp only [List.length_append]
  omega

theorem firstMarker?_leftmost {s before rest front back : Text} {m m' : Marker}
    (h : firstMarker? s = some (before, m, rest)) (hm : m'.Complete)
    (hs : s = front ++ (m'.written ++ back)) : before.length ≤ front.length := by
  induction s generalizing before front with
  | nil => simp [firstMarker?_nil] at h
  | cons c r ih =>
    cases hr : Marker.read (c :: r) with
    | some p =>
      rw [firstMarker?_of_read hr] at h
      simp only [Option.some.injEq, Prod.mk.injEq] at h
      simp [← h.1]
    | none =>
      rw [firstMarker?_cons hr] at h
      simp only [Option.map_eq_some_iff, Prod.mk.injEq, Prod.exists] at h
      obtain ⟨before', m', rest', hf, rfl, rfl, rfl⟩ := h
      cases front with
      | nil =>
        rw [Marker.read_eq_some_iff.2 ⟨hm, hs⟩] at hr
        cases hr
      | cons d front =>
        rw [List.cons_append, List.cons.injEq] at hs
        simpa using ih hf hs.2

theorem firstMarker?_eq_none_iff {s : Text} : firstMarker? s = none ↔
    ∀ front m back, Marker.Complete m → s ≠ front ++ (m.written ++ back) := by
  constructor
  · intro h front m back hm hs
    induction s generalizing front with
    | nil => simp [hm.written_ne_nil] at hs
    | cons c r ih =>
      cases hr : Marker.read (c :: r) with
      | some p => simp [firstMarker?_of_read hr] at h
      | none =>
        rw [firstMarker?_cons hr, Option.map_eq_none_iff] at h
        cases front with
        | nil =>
          rw [Marker.read_eq_some_iff.2 ⟨hm, hs⟩] at hr
          cases hr
        | cons d front =>
          rw [List.cons_append, List.cons.injEq] at hs
          exact ih h front hs.2
  · intro h
    cases hf : firstMarker? s with
    | none => rfl
    | some p =>
      obtain ⟨hm, hs⟩ := firstMarker?_eq_some hf
      exact absurd hs (h p.1 p.2.1 p.2.2 hm)

theorem firstMarker?_eq_some_iff {s before rest : Text} {m : Marker} :
    firstMarker? s = some (before, m, rest) ↔
      (m.Complete ∧ s = before ++ (m.written ++ rest)) ∧
        ∀ front m' back, Marker.Complete m' → s = front ++ (m'.written ++ back) →
          before.length ≤ front.length := by
  constructor
  · intro h
    exact ⟨firstMarker?_eq_some h, fun _ _ _ hm hs => firstMarker?_leftmost h hm hs⟩
  · rintro ⟨⟨hm, hs⟩, hleft⟩
    cases hf : firstMarker? s with
    | none => exact absurd hs (firstMarker?_eq_none_iff.1 hf before m rest hm)
    | some p =>
      obtain ⟨before', m', rest'⟩ := p
      obtain ⟨hm', hs'⟩ := firstMarker?_eq_some hf
      have hle := hleft before' m' rest' hm' hs'
      have hge := firstMarker?_leftmost hf hm hs
      rw [hs] at hs'
      obtain ⟨rfl, hw⟩ := List.append_inj hs' (by omega)
      have hr : Marker.read (m.written ++ rest) = some (m, rest) :=
        Marker.read_eq_some_iff.2 ⟨hm, rfl⟩
      rw [hw, Marker.read_eq_some_iff.2 ⟨hm', rfl⟩] at hr
      cases hr
      rfl

theorem firstMarker?_eq_none_of_append {s t : Text} (h : firstMarker? (s ++ t) = none) :
    firstMarker? s = none := by
  rw [firstMarker?_eq_none_iff] at h ⊢
  intro front m back hm hs
  exact h front m (back ++ t) hm (by rw [hs]; simp)

theorem firstMarker?_before {s before rest : Text} {m : Marker}
    (h : firstMarker? s = some (before, m, rest)) : firstMarker? before = none := by
  rw [firstMarker?_eq_none_iff]
  intro front m' back hm hb
  have hs : s = front ++ (m'.written ++ (back ++ (m.written ++ rest))) := by
    rw [(firstMarker?_eq_some h).2, hb]
    simp
  have hl := firstMarker?_leftmost h hm hs
  have hw := List.length_pos_iff.2 hm.written_ne_nil
  have hlen := congrArg List.length hb
  simp only [List.length_append] at hlen
  omega

theorem firstMarker?_take {before rest t : Text} {m : Marker}
    (h : firstMarker? (before ++ (m.written ++ (rest ++ t))) = some (before, m, rest ++ t)) :
    firstMarker? (before ++ (m.written ++ rest)) = some (before, m, rest) := by
  refine firstMarker?_eq_some_iff.2 ⟨⟨(firstMarker?_eq_some h).1, rfl⟩, ?_⟩
  intro front m' back hm hs
  have ht : before ++ (m.written ++ (rest ++ t)) = front ++ (m'.written ++ (back ++ t)) := by
    simpa using congrArg (· ++ t) hs
  exact firstMarker?_leftmost h hm ht

theorem consChar_of_marker (c : Char) (start : Nat) {x : Lexeme} {l : List Lexeme}
    (h : ∀ value, x.token ≠ .text value) :
    Lexeme.consChar c start (x :: l) = textLexeme start [c] ++ x :: l := by
  obtain ⟨token, span⟩ := x
  cases token with
  | text value => exact absurd rfl (h value)
  | _ => simp [Lexeme.consChar, textLexeme]

theorem consChar_textLexeme (c : Char) (start : Nat) (s : Text) {l : List Lexeme}
    (h : ∀ x ∈ l.head?, ∀ value, x.token ≠ .text value) :
    Lexeme.consChar c start (textLexeme (start + c.utf8Size) s ++ l) =
      textLexeme start (c :: s) ++ l := by
  cases s with
  | nil =>
    cases l with
    | nil => simp [Lexeme.consChar, textLexeme]
    | cons x l => exact consChar_of_marker c start (h x (by simp))
  | cons d s => simp [Lexeme.consChar, textLexeme, Nat.add_assoc]

theorem lexFrom_of_read {s rest : Text} {m : Marker} (h : Marker.read s = some (m, rest))
    (start : Nat) :
    lexFrom start s = ⟨.ofIdentifier m.name, ⟨start, start + Text.byteSize m.written⟩⟩ ::
      lexFrom (start + Text.byteSize m.written) rest := by
  rw [lexFrom]
  split
  · next m' rest' hr =>
    rw [h] at hr
    simp only [Option.some.injEq, Prod.mk.injEq] at hr
    rw [hr.1, hr.2]
  · next hr => simp [h] at hr

theorem lexFrom_cons {c : Char} {r : Text} (h : Marker.read (c :: r) = none) (start : Nat) :
    lexFrom start (c :: r) = Lexeme.consChar c start (lexFrom (start + c.utf8Size) r) := by
  rw [lexFrom]
  split
  · next hr => simp [h] at hr
  · rfl

theorem lexFrom_of_none {s : Text} (h : firstMarker? s = none) (start : Nat) :
    lexFrom start s = textLexeme start s := by
  induction s generalizing start with
  | nil => simp [lexFrom, Marker.read, textLexeme]
  | cons c r ih =>
    cases hr : Marker.read (c :: r) with
    | some p => simp [firstMarker?_of_read hr] at h
    | none =>
      rw [firstMarker?_cons hr, Option.map_eq_none_iff] at h
      have hc := consChar_textLexeme c start r (l := []) (by simp)
      rw [List.append_nil, List.append_nil] at hc
      rw [lexFrom_cons hr, ih h, hc]

theorem lexFrom_of_some {s before rest : Text} {m : Marker}
    (h : firstMarker? s = some (before, m, rest)) (start : Nat) :
    let here := start + Text.byteSize before
    let stop := here + Text.byteSize m.written
    lexFrom start s = textLexeme start before ++
      ⟨.ofIdentifier m.name, ⟨here, stop⟩⟩ :: lexFrom stop rest := by
  induction s generalizing start before with
  | nil => simp [firstMarker?_nil] at h
  | cons c r ih =>
    intro here stop
    cases hr : Marker.read (c :: r) with
    | some p =>
      rw [firstMarker?_of_read hr] at h
      simp only [Option.some.injEq, Prod.mk.injEq] at h
      obtain ⟨rfl, rfl, rfl⟩ := h
      exact lexFrom_of_read hr start
    | none =>
      rw [firstMarker?_cons hr] at h
      simp only [Option.map_eq_some_iff, Prod.mk.injEq, Prod.exists] at h
      obtain ⟨before', m', rest', hf, rfl, rfl, rfl⟩ := h
      have hi := ih hf (start + c.utf8Size)
      have hh : start + c.utf8Size + Text.byteSize before' = here := by
        simp [here, Nat.add_assoc]
      simp only [hh] at hi
      rw [lexFrom_cons hr, hi]
      apply consChar_textLexeme
      simpa using ofIdentifier_ne_text m'.name

def firstEnd? (name : Text) (s : Text) : Option (Text × Text) :=
  match _h : firstMarker? s with
  | none => none
  | some (before, m, rest) =>
    if Token.ofIdentifier m.name = .blockEnd name then some (before, rest)
    else (firstEnd? name rest).map fun (interior, after) =>
      (before ++ (m.written ++ interior), after)
termination_by s.length
decreasing_by
  have hl := length_of_firstMarker? _h
  omega

theorem firstEnd?_eq_some {name s interior after : Text}
    (h : firstEnd? name s = some (interior, after)) :
    ∃ m : Marker, m.Complete ∧ s = interior ++ (m.written ++ after) := by
  fun_induction firstEnd? name s generalizing interior with
  | case1 => simp at h
  | case2 s before m rest hs hm =>
    simp only [Option.some.injEq, Prod.mk.injEq] at h
    obtain ⟨rfl, rfl⟩ := h
    exact ⟨m, firstMarker?_eq_some hs⟩
  | case3 s before m rest hs hm ih =>
    simp only [Option.map_eq_some_iff, Prod.mk.injEq, Prod.exists] at h
    obtain ⟨interior', after', he, rfl, rfl⟩ := h
    obtain ⟨m', hc, rfl⟩ := ih he
    exact ⟨m', hc, by rw [(firstMarker?_eq_some hs).2]; simp⟩

theorem length_of_firstEnd? {name s interior after : Text}
    (h : firstEnd? name s = some (interior, after)) :
    interior.length < s.length ∧ after.length < s.length := by
  obtain ⟨m, hm, rfl⟩ := firstEnd?_eq_some h
  have hw := List.length_pos_iff.2 hm.written_ne_nil
  simp only [List.length_append]
  omega

theorem splitAtEnd_textLexeme (name : Text) (start : Nat) (s : Text) (l : List Lexeme) :
    splitAtEnd name (textLexeme start s ++ l) =
      (splitAtEnd name l).map fun (body, stop, after) =>
        (textLexeme start s ++ body, stop, after) := by
  by_cases h : s = []
  · cases hs : splitAtEnd name l <;> simp [textLexeme, h, hs]
  · simp [textLexeme, h, splitAtEnd]

theorem splitAtEnd_of_none {name s : Text} (h : firstEnd? name s = none) (start : Nat) :
    splitAtEnd name (lexFrom start s) = none := by
  fun_induction firstEnd? name s generalizing start with
  | case1 s hs =>
    rw [lexFrom_of_none hs, ← List.append_nil (textLexeme start s), splitAtEnd_textLexeme]
    rfl
  | case2 => simp at h
  | case3 s before m rest hs hm ih =>
    simp only [Option.map_eq_none_iff] at h
    rw [lexFrom_of_some hs, splitAtEnd_textLexeme, splitAtEnd, if_neg hm, ih h]
    rfl

theorem splitAtEnd_of_some {name s interior after : Text}
    (h : firstEnd? name s = some (interior, after)) (start : Nat) :
    ∃ stop : Span, splitAtEnd name (lexFrom start s) =
      some (lexFrom start interior, stop, lexFrom stop.stop after) := by
  fun_induction firstEnd? name s generalizing start interior with
  | case1 => simp at h
  | case2 s before m rest hs hm =>
    simp only [Option.some.injEq, Prod.mk.injEq] at h
    obtain ⟨rfl, rfl⟩ := h
    refine ⟨⟨start + Text.byteSize before,
      start + Text.byteSize before + Text.byteSize m.written⟩, ?_⟩
    rw [lexFrom_of_some hs, splitAtEnd_textLexeme, splitAtEnd, if_pos hm,
      lexFrom_of_none (firstMarker?_before hs)]
    simp
  | case3 s before m rest hs hm ih =>
    simp only [Option.map_eq_some_iff, Prod.mk.injEq, Prod.exists] at h
    obtain ⟨interior', after', he, rfl, rfl⟩ := h
    obtain ⟨stop, hi⟩ := ih he (start + Text.byteSize before + Text.byteSize m.written)
    obtain ⟨m', -, hrest⟩ := firstEnd?_eq_some he
    have hfront : firstMarker? (before ++ (m.written ++ interior')) =
        some (before, m, interior') := by
      have hs' := hs
      rw [(firstMarker?_eq_some hs).2, hrest] at hs'
      exact firstMarker?_take hs'
    refine ⟨stop, ?_⟩
    rw [lexFrom_of_some hs, splitAtEnd_textLexeme, splitAtEnd, if_neg hm, hi,
      lexFrom_of_some hfront]
    rfl

end RasterText
