import Mathlib.Data.List.Forall2
import RasterText.Toml.Dates
set_option autoImplicit false

namespace RasterText.Toml

/-- A date of the document, or a table that stands for one. -/
inductive Value.IsDate : Value → Prop where
  | literal (t : Text) : IsDate (.datetime t)
  | table (kind : TableKind) (text : Value) (rest : Entries) :
      IsDate (.table kind ((dateKey, text) :: rest))

theorem Value.isDate_iff {v : Value} : v.IsDate ↔ (∃ t, v = .datetime t) ∨
    ∃ kind text rest, v = .table kind ((dateKey, text) :: rest) := by
  constructor
  · intro h
    cases h with
    | literal t => exact .inl ⟨t, rfl⟩
    | table kind text rest => exact .inr ⟨kind, text, rest, rfl⟩
  · rintro (⟨t, rfl⟩ | ⟨kind, text, rest, rfl⟩)
    · exact .literal t
    · exact .table kind text rest

instance : DecidablePred Value.IsDate
  | .datetime t => .isTrue (.literal t)
  | .table kind ((key, text) :: rest) =>
    if h : key = dateKey then .isTrue (h ▸ .table kind text rest)
    else .isFalse fun | .table _ _ _ => h rfl
  | .table _ [] => .isFalse nofun
  | .string _ | .integer _ | .float _ | .boolean _ | .array _ | .tables _ => .isFalse nofun

/-- The forms of a value before and after. -/
inductive Value.Dated : Value → Value → Prop where
  | date {v : Value} (hv : v.IsDate) (t : Text) : Dated v (.datetime t)
  | string (t : Text) : Dated (.string t) (.string t)
  | integer (n : Int) : Dated (.integer n) (.integer n)
  | float (x : Binary64) : Dated (.float x) (.float x)
  | boolean (b : Bool) : Dated (.boolean b) (.boolean b)
  | array {vs ws : List Value} (each : List.Forall₂ (fun v w => v.withDates? = some w) vs ws) :
      Dated (.array vs) (.array ws)
  | tables {vs ws : List Value} (each : List.Forall₂ (fun v w => v.withDates? = some w) vs ws) :
      Dated (.tables vs) (.tables ws)
  | table {kind : TableKind} {es fs : Entries} (hd : ¬(Value.table kind es).IsDate)
      (each : Toml.withDates? es = some fs) : Dated (.table kind es) (.table kind fs)

theorem forall₂_of_withDatesEach? {vs ws : List Value} (h : withDatesEach? vs = some ws) :
    List.Forall₂ (fun v w => v.withDates? = some w) vs ws := by
  induction vs generalizing ws with
  | nil =>
    cases h
    exact .nil
  | cons v vs ih =>
    rw [withDatesEach?] at h
    obtain ⟨w, hv, h⟩ := Option.bind_eq_some_iff.1 h
    obtain ⟨ws, hvs, h⟩ := Option.bind_eq_some_iff.1 h
    cases h
    exact .cons hv (ih hvs)

theorem forall₂_of_withDates? {es fs : Entries} (h : withDates? es = some fs) :
    List.Forall₂ (fun e f => e.1 = f.1 ∧ e.2.withDates? = some f.2) es fs := by
  induction es generalizing fs with
  | nil =>
    cases h
    exact .nil
  | cons e es ih =>
    obtain ⟨key, v⟩ := e
    rw [withDates?] at h
    obtain ⟨w, hv, h⟩ := Option.bind_eq_some_iff.1 h
    obtain ⟨fs, hes, h⟩ := Option.bind_eq_some_iff.1 h
    cases h
    exact .cons ⟨rfl, hv⟩ (ih hes)

theorem keys_withDates? {es fs : Entries} (h : withDates? es = some fs) :
    es.map Prod.fst = fs.map Prod.fst := by
  have he := forall₂_of_withDates? h
  clear h
  induction he with
  | nil => rfl
  | cons hef _ ih => rw [List.map_cons, List.map_cons, hef.1, ih]

theorem Value.dated {v w : Value} (h : v.withDates? = some w) : v.Dated w := by
  unfold Value.withDates? at h
  split at h
  · obtain ⟨ws, hw, rfl⟩ := Option.map_eq_some_iff.1 h
    exact .array (forall₂_of_withDatesEach? hw)
  · obtain ⟨ws, hw, rfl⟩ := Option.map_eq_some_iff.1 h
    exact .tables (forall₂_of_withDatesEach? hw)
  · split at h
    · next kind _ key text rest =>
      split at h
      · next hk =>
        subst hk
        split at h
        · obtain ⟨t, -, rfl⟩ := Option.map_eq_some_iff.1 h
          exact .date (.table kind _ rest) t
        · cases h
      · next hk =>
        have hd : ¬(Value.table kind ((key, text) :: rest)).IsDate := fun | .table _ _ _ => hk rfl
        obtain ⟨w, hw, h⟩ := Option.bind_eq_some_iff.1 h
        obtain ⟨fs, hf, h⟩ := Option.bind_eq_some_iff.1 h
        cases h
        refine .table hd ?_
        rw [Toml.withDates?, hw, hf]
        rfl
    · cases h
      exact .table nofun rfl
  · cases h
    cases v with
    | string t => exact .string t
    | integer n => exact .integer n
    | float x => exact .float x
    | boolean b => exact .boolean b
    | datetime t => exact .date (.literal t) t
    | array vs => simp_all
    | tables vs => simp_all
    | table kind es => simp_all

end RasterText.Toml
