import RasterText.Proofs.Preset.FieldOrder
import RasterText.Proofs.Toml.Dates
import RasterText.Proofs.Toml.DistinctKeys
set_option autoImplicit false

/-!
What each loader demands of a value beyond what both of them do. A text may not have a date where a
string is read. A file may not have a date in place of a section, or a sequence that is longer than
the section it stands for. Apart from this they take the same values and give the same settings.
-/

namespace RasterText

open Toml (Value Entries)

variable {σ α β : Type}

/-- The readings of a value by the two loaders: the first fails unless `T` and the second unless
`D`, and else they give the same. -/
structure Alike (T D : Prop) (x y : Reading α) : Prop where
  text : ∀ a, x = .ok a → T
  file : ∀ a, y = .ok a → D
  agree : T → D → ∀ a, x = .ok a ↔ y = .ok a

namespace Alike

variable {T D T' D' : Prop} {x y : Reading α}

theorem of_iff (h : ∀ a, x = .ok a ↔ y = .ok a) : Alike True True x y :=
  ⟨fun _ _ => trivial, fun _ _ => trivial, fun _ _ => h⟩

protected theorem refl (x : Reading α) : Alike True True x x := of_iff fun _ => .rfl

theorem congr (h : Alike T D x y) (hT : T ↔ T') (hD : D ↔ D') : Alike T' D' x y :=
  ⟨fun a ha => hT.1 (h.text a ha), fun a ha => hD.1 (h.file a ha),
    fun ht hd => h.agree (hT.2 ht) (hD.2 hd)⟩

theorem trans {x' y' : Reading α} (h : Alike T D x y) (hx : ∀ a, x = .ok a ↔ x' = .ok a)
    (hy : ∀ a, y = .ok a ↔ y' = .ok a) : Alike T D x' y' :=
  ⟨fun a ha => h.text a ((hx a).2 ha), fun a ha => h.file a ((hy a).2 ha),
    fun ht hd a => (hx a).symm.trans ((h.agree ht hd a).trans (hy a))⟩

theorem bind {f g : α → Reading β} (h : Alike T D x y) (hf : ∀ a, Alike T' D' (f a) (g a)) :
    Alike (T ∧ T') (D ∧ D') (x >>= f) (y >>= g) := by
  constructor
  · intro b hb
    obtain ⟨a, ha, hb⟩ := bind_eq_ok.1 hb
    exact ⟨h.text a ha, (hf a).text b hb⟩
  · intro b hb
    obtain ⟨a, ha, hb⟩ := bind_eq_ok.1 hb
    exact ⟨h.file a ha, (hf a).file b hb⟩
  · rintro ⟨ht, ht'⟩ ⟨hd, hd'⟩ b
    rw [bind_eq_ok, bind_eq_ok]
    exact exists_congr fun a => and_congr (h.agree ht hd a) ((hf a).agree ht' hd' b)

theorem andThen (h : Alike T D x y) (f : α → Reading β) : Alike T D (x >>= f) (y >>= f) :=
  (h.bind fun a => .refl (f a)).congr (iff_of_eq (and_true T)) (iff_of_eq (and_true D))

theorem under (h : Alike T D x y) (key : Text) : Alike T D (x.under key) (y.under key) := by
  constructor
  · simpa using h.text
  · simpa using h.file
  · simpa using h.agree

theorem eq_of_ok {a b : α} (h : Alike T D x y) (ha : x = .ok a) (hb : y = .ok b) : a = b := by
  have hy := (h.agree (h.text a ha) (h.file b hb) a).1 ha
  exact Except.ok.inj (hy.symm.trans hb)

end Alike

/-- What a loader demands of a value that the other loader would let pass. -/
abbrev Demand := Loader → Value → Prop

namespace Demand

def nothing : Demand := fun _ _ => True

def noDate : Demand := fun l v => l = .text → ¬v.IsDate

def inEach (d : Demand) : Demand := fun l v =>
  match v with
  | .array vs | .tables vs => ∀ v ∈ vs, d l v
  | _ => True

def InEntries (ds : List (Text × Demand)) (l : Loader) (entries : Entries) : Prop :=
  ∀ e ∈ entries, ∀ d ∈ ds.lookup e.1, d l e.2

/-- Of a section, for its settings: a file may not have a date in its place, or a sequence with
elements for which there is no setting. -/
def inSection (ds : List (Text × Demand)) : Demand := fun l v =>
  if v.IsDate then l = .text
  else match v with
  | .table _ entries => InEntries ds l entries
  | .array vs | .tables vs =>
    (∀ x ∈ ds.zip vs, x.1.2 l x.2) ∧ (l = .file → vs.length ≤ ds.length)
  | _ => True

/-- Two readers of a value, one for each loader, differ by what is demanded. -/
def Governs (d : Demand) (read : Loader → Value → Reading α) : Prop :=
  ∀ v w : Value, v.Distinct → v.withDates? = some w →
    Alike (d .text v) (d .file v) (read .text v) (read .file w)

variable {d : Demand} {read : Loader → Value → Reading α}

theorem Governs.andThen (h : d.Governs read) (f : α → Reading β) :
    d.Governs fun l v => read l v >>= f :=
  fun v w hv hw => (h v w hv hw).andThen f

theorem Governs.congr {other : Loader → Value → Reading α} (h : d.Governs read)
    (ho : ∀ l v a, read l v = .ok a ↔ other l v = .ok a) : d.Governs other := by
  intro v w hv hw
  exact (h v w hv hw).trans (ho .text v) (ho .file w)

theorem governs_nothing (h : ∀ v w : Value, v.withDates? = some w →
    ∀ a, read .text v = .ok a ↔ read .file w = .ok a) : nothing.Governs read :=
  fun v w _ hw => .of_iff (h v w hw)

theorem governs_noDate (hd : ∀ v : Value, v.IsDate → ∀ a, read .text v ≠ .ok a)
    (h : ∀ v w : Value, ¬v.IsDate → v.withDates? = some w →
      ∀ a, read .text v = .ok a ↔ read .file w = .ok a) : noDate.Governs read := by
  intro v w _ hw
  constructor
  · exact fun a ha _ hv => hd v hv a ha
  · exact fun _ _ => nofun
  · exact fun ht _ => h v w (ht rfl) hw

theorem alike_mapM (h : d.Governs read) {vs ws : List Value}
    (he : List.Forall₂ (fun v w => v.withDates? = some w) vs ws) (hv : ∀ v ∈ vs, v.Distinct) :
    Alike (∀ v ∈ vs, d .text v) (∀ v ∈ vs, d .file v)
      (vs.mapM (read .text)) (ws.mapM (read .file)) := by
  induction he with
  | nil => exact (Alike.refl _).congr (by simp) (by simp)
  | cons hw _ ih =>
    rw [List.forall_mem_cons] at hv
    rw [List.mapM_cons, List.mapM_cons, List.forall_mem_cons, List.forall_mem_cons]
    exact (h _ _ hv.1 hw).bind fun a => (ih hv.2).andThen _

end Demand

open Demand

/-- The fields of a section for the two loaders, with what is demanded of their values. -/
inductive FieldsAlike : List (Text × Demand) → List (Field σ) → List (Field σ) → Prop where
  | nil : FieldsAlike [] [] []
  | cons {key : Text} {d : Demand} {f g : Field σ} {ds : List (Text × Demand)}
      {fs gs : List (Field σ)} (hf : f.key = key) (hg : g.key = key)
      (set : ∀ s (v w : Value), v.Distinct → v.withDates? = some w →
        Alike (d .text v) (d .file v) (f.set v s) (g.set w s))
      (rest : FieldsAlike ds fs gs) : FieldsAlike ((key, d) :: ds) (f :: fs) (g :: gs)

namespace FieldsAlike

variable {ds : List (Text × Demand)} {fs gs : List (Field σ)}

theorem put {key : Text} {d : Demand} {read : Loader → Value → Reading α} {f : α → σ → σ}
    (h : d.Governs read) (rest : FieldsAlike ds fs gs) :
    FieldsAlike ((key, d) :: ds) (⟨key, fun v s => do return f (← read .text v) s⟩ :: fs)
      (⟨key, fun v s => do return f (← read .file v) s⟩ :: gs) :=
  .cons rfl rfl (fun _ v w hv hw => (h v w hv hw).andThen _) rest

theorem length_eq (h : FieldsAlike ds fs gs) : gs.length = ds.length := by
  induction h with
  | nil => rfl
  | cons _ _ _ _ ih => rw [List.length_cons, List.length_cons, ih]

theorem readEntry (h : FieldsAlike ds fs gs) {e f : Text × Value} (hk : e.1 = f.1)
    (hv : e.2.Distinct) (hw : e.2.withDates? = some f.2) (s : σ) :
    Alike (∀ d ∈ ds.lookup e.1, d .text e.2) (∀ d ∈ ds.lookup e.1, d .file e.2)
      (Loader.readEntry fs s e) (Loader.readEntry gs s f) := by
  unfold Loader.readEntry
  rw [← hk]
  induction h with
  | nil => exact (Alike.refl _).congr (by simp) (by simp)
  | @cons key d f' g' ds fs gs hf hg set _ ih =>
    by_cases he : e.1 = key
    · have hset := (set s e.2 f.2 hv hw).under e.1
      simpa [List.lookup_cons, hf, hg, he] using hset
    · have hb : (e.1 == key) = false := beq_false_of_ne he
      simpa [List.lookup_cons, hf, hg, hb, Ne.symm he] using ih

theorem entries (h : FieldsAlike ds fs gs) {es es' : Entries}
    (he : List.Forall₂ (fun e f => e.1 = f.1 ∧ e.2.withDates? = some f.2) es es')
    (hv : ∀ e ∈ es, e.2.Distinct) (start : σ) :
    Alike (InEntries ds .text es) (InEntries ds .file es)
      (es.foldlM (Loader.readEntry fs) start) (es'.foldlM (Loader.readEntry gs) start) := by
  unfold InEntries
  induction he generalizing start with
  | nil => exact (Alike.refl _).congr (by simp) (by simp)
  | cons hd _ ih =>
    rw [List.forall_mem_cons] at hv
    rw [List.foldlM_cons, List.foldlM_cons, List.forall_mem_cons, List.forall_mem_cons]
    exact (h.readEntry hd.1 hv.1 hd.2 start).bind fun s => ih hv.2 s

theorem elements (h : FieldsAlike ds fs gs) {vs ws : List Value}
    (he : List.Forall₂ (fun v w => v.withDates? = some w) vs ws) (hv : ∀ v ∈ vs, v.Distinct)
    (start : σ) :
    Alike (∀ x ∈ ds.zip vs, x.1.2 .text x.2) (∀ x ∈ ds.zip vs, x.1.2 .file x.2)
      (Loader.readElements fs start vs) (Loader.readElements gs start ws) := by
  unfold Loader.readElements
  induction h generalizing vs ws start with
  | nil => exact (Alike.refl _).congr (by simp) (by simp)
  | cons _ _ set _ ih =>
    cases he with
    | nil => exact (Alike.refl _).congr (by simp) (by simp)
    | cons hw he =>
      rw [List.forall_mem_cons] at hv
      simp only [List.zip_cons_cons, List.foldlM_cons, List.forall_mem_cons]
      exact (set start _ _ hv.1 hw).bind fun s => ih he hv.2 s

end FieldsAlike

namespace Loader

theorem governs_readBool : nothing.Governs readBool := by
  refine governs_nothing fun v w hw a => ?_
  cases Value.dated hw with
  | date hv t => cases hv <;> simp [readBool, plain, wrongType, Reading.fail]
  | _ => simp [readBool, plain, wrongType, Reading.fail]

theorem governs_readUnsigned (bits : Nat) : nothing.Governs fun l => l.readUnsigned bits := by
  refine governs_nothing fun v w hw a => ?_
  cases Value.dated hw with
  | date hv t => cases hv <;> simp [readUnsigned, plain, wrongType, Reading.fail]
  | _ => simp [readUnsigned, plain, wrongType, Reading.fail]

theorem governs_readWord : nothing.Governs readWord := (governs_readUnsigned 32).andThen _

theorem governs_readBlockSize : nothing.Governs readBlockSize :=
  (governs_readUnsigned 32).andThen _

theorem governs_readText : noDate.Governs readText := by
  refine governs_noDate (fun v hv a => ?_) fun v w hv hw a => ?_
  · cases hv <;> simp [readText, plain, wrongType, Reading.fail]
  · cases Value.dated hw with
    | date hd t => exact absurd hd hv
    | _ => simp [readText, plain, wrongType, Reading.fail]

theorem governs_readPath : noDate.Governs readPath := by
  refine governs_noDate (fun v hv a => ?_) fun v w hv hw a => ?_
  · cases hv <;> simp [readPath, plain, wrongType, Reading.fail]
  · cases Value.dated hw with
    | date hd t => exact absurd hd hv
    | _ => simp [readPath, plain, wrongType, Reading.fail]

theorem readNothing_eq_ok_iff {v w : Value} (hw : v.withDates? = some w) :
    text.readNothing v = .ok () ↔ file.readNothing w = .ok () := by
  cases Value.dated hw with
  | date hv t => cases hv <;> simp [readNothing, Reading.fail]
  | array each | tables each => cases each <;> simp [readNothing, Reading.fail]
  | table hd each =>
    cases Toml.forall₂_of_withDates? each <;> simp [readNothing, Reading.fail]
  | _ => simp [readNothing, Reading.fail]

theorem readName_singleton_eq_ok_iff {l : Loader} {names : List (Text × α)} {kind : Toml.TableKind}
    {key : Text} {v : Value} {a : α} :
    l.readName names (.table kind [(key, v)]) = .ok a ↔
      names.lookup key = some a ∧ l.readNothing v = .ok () := by
  rw [readName, bind_eq_ok]
  cases h : names.lookup key <;> cases l.readNothing v <;>
    simp [meaning, h, Reading.fail, bind, Except.bind, pure, Except.pure]

theorem governs_readName {names : List (Text × α)} (hn : names.lookup Toml.dateKey = none) :
    nothing.Governs fun l => l.readName names := by
  refine governs_nothing fun v w hw a => ?_
  cases Value.dated hw with
  | date hv t =>
    -- As a name the key of a date has no meaning.
    have ht : text.readName names v ≠ .ok a := by
      cases hv with
      | literal t => simp [readName, Reading.fail]
      | table kind v rest =>
        cases rest with
        | nil => simp [readName_singleton_eq_ok_iff, hn]
        | cons e rest => simp [readName, Reading.fail]
    exact iff_of_false ht (by simp [readName, Reading.fail])
  | table hd each =>
    cases Toml.forall₂_of_withDates? each with
    | nil => simp [readName, Reading.fail]
    | @cons e f es fs hef hes =>
      cases hes with
      | nil =>
        rw [readName_singleton_eq_ok_iff, readName_singleton_eq_ok_iff, hef.1,
          readNothing_eq_ok_iff hef.2]
      | cons hef' hes => simp [readName, Reading.fail]
  | _ => simp [readName, notAName, Reading.fail]

theorem alike_readEntries {ds : List (Text × Demand)} {fs gs : List (Field σ)}
    (h : FieldsAlike ds fs gs) (hi : Independent gs) {es es' : Entries} (hv : es.Distinct)
    (hw : Toml.withDates? es = some es') (start : σ) :
    Alike (InEntries ds .text es) (InEntries ds .file es)
      (text.readEntries fs start es) (file.readEntries gs start es') := by
  have he := Toml.forall₂_of_withDates? hw
  have hk : (es'.map Prod.fst).Nodup := Toml.keys_withDates? hw ▸ hv.keys
  exact (h.entries he hv.values start).trans (fun _ => .rfl) fun a =>
    (readEntries_eq_ok_iff hi file hk start a).symm

theorem alike_readArray {ds : List (Text × Demand)} {fs gs : List (Field σ)}
    (h : FieldsAlike ds fs gs) {vs ws : List Value}
    (he : List.Forall₂ (fun v w => v.withDates? = some w) vs ws) (hv : ∀ v ∈ vs, v.Distinct)
    (start : σ) :
    Alike ((∀ x ∈ ds.zip vs, x.1.2 .text x.2) ∧ (Loader.text = .file → vs.length ≤ ds.length))
      ((∀ x ∈ ds.zip vs, x.1.2 .file x.2) ∧ (Loader.file = .file → vs.length ≤ ds.length))
      (do
        let s ← readElements fs start vs
        text.checkLength fs.length vs
        return s)
      (do
        let s ← readElements gs start ws
        file.checkLength gs.length ws
        return s) := by
  refine (h.elements he hv start).bind fun s => ?_
  refine Alike.andThen (f := fun _ => pure s) ?_
  rw [h.length_eq, checkLength, checkLength, ← he.length_eq]
  by_cases hl : vs.length ≤ ds.length
  · simpa [hl, Nat.not_lt.2 hl] using Alike.refl (.ok ())
  · refine ⟨fun _ _ => nofun, fun a ha => ?_, fun _ hd => absurd (hd rfl) hl⟩
    simp [Nat.not_le.1 hl, Reading.fail] at ha

theorem governs_readSection {ds : List (Text × Demand)} {fields : Loader → List (Field σ)}
    (h : FieldsAlike ds (fields .text) (fields .file)) (hi : Independent (fields .file))
    (name : Text) (start : σ) :
    (inSection ds).Governs fun l => l.readSection name (fields l) start := by
  intro v w hv hw
  cases Value.dated hw with
  | date hd t =>
    -- A file reads the date as a string, and a string is no section.
    refine ⟨fun a _ => by simp [inSection, hd], fun a ha => ?_, fun _ hf => ?_⟩
    · simp [readSection, plain, wrongType, Reading.fail] at ha
    · simp [inSection, hd] at hf
  | array each =>
    have ha := alike_readArray h each (Toml.distinct_array.1 hv) start
    exact ha.congr (by simp [inSection, Value.isDate_iff]) (by simp [inSection, Value.isDate_iff])
  | tables each =>
    have ha := alike_readArray h each (Toml.distinct_tables.1 hv) start
    exact ha.congr (by simp [inSection, Value.isDate_iff]) (by simp [inSection, Value.isDate_iff])
  | table hd each =>
    have ha := alike_readEntries h hi (Toml.distinct_table.1 hv) each start
    exact ha.congr (by simp [inSection, hd]) (by simp [inSection, hd])
  | _ =>
    refine (Alike.of_iff fun a => ?_).congr ?_ ?_
    · simp [readSection, plain, wrongType, Reading.fail]
    · simp [inSection]
    · simp [inSection, Value.isDate_iff]

end Loader

end RasterText
