import Mathlib.Data.List.Pairwise
import RasterText.Preset.Reading
import RasterText.Proofs.Document.ItemTags
set_option autoImplicit false

/-!
The order of the settings of a section. Every field changes a part of its own, so the entries of a
table may be taken in any order: what a good table gives stays the same, and so does whether a table
is good. Only which fault comes first depends on the order.
-/

namespace RasterText

open Toml (Value Entries)

variable {σ ι α β : Type}

@[simp] theorem Reading.under_eq_ok {key : Text} {x : Reading α} {a : α} :
    x.under key = .ok a ↔ x = .ok a := by
  cases x <;> simp [Reading.under]

def StepsCommute (f g : σ → Reading σ) : Prop := ∀ s a, (f s >>= g) = .ok a ↔ (g s >>= f) = .ok a

namespace StepsCommute

variable {f g : σ → Reading σ}

theorem symm (h : StepsCommute f g) : StepsCommute g f := fun s a => (h s a).symm

theorem ok_left (g : σ → Reading σ) : StepsCommute .ok g := by
  intro s a
  rw [bind_eq_ok, bind_eq_ok]
  simp

theorem under (h : StepsCommute f g) (k m : Text) :
    StepsCommute (fun s => (f s).under k) (fun s => (g s).under m) := by
  intro s a
  have hs := h s a
  rw [bind_eq_ok, bind_eq_ok] at hs ⊢
  simpa only [Reading.under_eq_ok] using hs

theorem put {x : Reading α} {y : Reading β} {f : α → σ → σ} {g : β → σ → σ}
    (h : ∀ a b s, g b (f a s) = f a (g b s)) :
    StepsCommute (fun s => do return f (← x) s) (fun s => do return g (← y) s) := by
  intro s a
  cases x with
  | error e => cases y <;> simp [bind, Except.bind, pure, Except.pure]
  | ok x => cases y <;> simp [bind, Except.bind, pure, Except.pure, h]

end StepsCommute

theorem foldlM_perm {step : σ → ι → Reading σ} {xs ys : List ι} (hp : xs.Perm ys)
    (hc : xs.Pairwise fun i j => StepsCommute (step · i) (step · j)) (s a : σ) :
    xs.foldlM step s = .ok a ↔ ys.foldlM step s = .ok a := by
  induction hp generalizing s with
  | nil => rfl
  | cons x _ ih =>
    rw [List.foldlM_cons, List.foldlM_cons, bind_eq_ok, bind_eq_ok]
    simp only [ih (List.pairwise_cons.1 hc).2]
  | swap x y xs =>
    -- Both orders of the first two steps lead to the same state, and the rest starts from it.
    have hxy := (List.pairwise_cons.1 hc).1 x List.mem_cons_self
    have hs : ∀ i j,
        (j :: i :: xs).foldlM step s = (step s j >>= (step · i)) >>= xs.foldlM step := by
      intro i j
      rw [List.foldlM_cons, bind_assoc]
      simp only [List.foldlM_cons]
    rw [hs, hs, bind_eq_ok, bind_eq_ok]
    exact exists_congr fun b => and_congr_left fun _ => hxy s b
  | trans hp _ ih₁ ih₂ =>
    exact (ih₁ hc s).trans (ih₂ (hc.perm hp fun h => h.symm) s)

namespace Loader

theorem perm_insertByKey (e : Text × Value) (entries : Entries) :
    (insertByKey e entries).Perm (e :: entries) := by
  fun_induction insertByKey e entries with
  | case1 => rfl
  | case2 => rfl
  | case3 x rest _ ih => exact (ih.cons x).trans (.swap e x rest)

theorem perm_order (l : Loader) (entries : Entries) : (l.order entries).Perm entries := by
  cases l with
  | text => rfl
  | file =>
    induction entries with
    | nil => rfl
    | cons e entries ih => exact (perm_insertByKey e _).trans (ih.cons e)

def readEntry (fields : List (Field σ)) (s : σ) (e : Text × Value) : Reading σ :=
  match fields.find? (·.key == e.1) with
  | some field => .under e.1 (field.set e.2 s)
  | none => .ok s

theorem readEntries_eq (l : Loader) (fields : List (Field σ)) (start : σ) (entries : Entries) :
    l.readEntries fields start entries = (l.order entries).foldlM (readEntry fields) start := rfl

def Independent (fields : List (Field σ)) : Prop :=
  fields.Pairwise fun f g => ∀ v w, StepsCommute (f.set v) (g.set w)

theorem commute_readEntry {fields : List (Field σ)} (hf : Independent fields)
    {d e : Text × Value} (hk : d.1 ≠ e.1) :
    StepsCommute (readEntry fields · d) (readEntry fields · e) := by
  have : Std.Symm fun f g : Field σ => ∀ v w, StepsCommute (f.set v) (g.set w) :=
    ⟨fun _ _ h v w => (h w v).symm⟩
  unfold readEntry
  cases hd : fields.find? (·.key == d.1) with
  | none => exact .ok_left _
  | some f =>
    cases he : fields.find? (·.key == e.1) with
    | none => exact (StepsCommute.ok_left _).symm
    | some g =>
      have hfk := List.find?_some hd
      have hgk := List.find?_some he
      have hfg : f ≠ g := by
        rintro rfl
        exact hk ((beq_iff_eq.1 hfk).symm.trans (beq_iff_eq.1 hgk))
      exact (hf.forall (List.mem_of_find?_eq_some hd) (List.mem_of_find?_eq_some he) hfg
        _ _).under _ _

theorem readEntries_eq_ok_iff {fields : List (Field σ)} (hf : Independent fields) (l : Loader)
    {entries : Entries} (hk : (entries.map Prod.fst).Nodup) (start a : σ) :
    l.readEntries fields start entries = .ok a ↔
      entries.foldlM (readEntry fields) start = .ok a := by
  rw [readEntries_eq]
  refine (foldlM_perm (perm_order l entries).symm ?_ start a).symm
  exact (List.pairwise_map.1 hk).imp fun h => commute_readEntry hf h

section Fields

variable (l : Loader)

theorem independent_preparationFields : Independent l.preparationFields := by
  simp only [Independent, preparationFields, List.pairwise_cons, List.forall_mem_cons,
    List.not_mem_nil, false_imp_iff, implies_true, and_true, List.Pairwise.nil]
  repeat' apply And.intro
  all_goals exact fun _ _ => .put fun _ _ _ => rfl

theorem independent_operationFields : Independent l.operationFields := by
  simp only [Independent, operationFields, List.pairwise_cons, List.forall_mem_cons,
    List.not_mem_nil, false_imp_iff, implies_true, and_true, List.Pairwise.nil]
  repeat' apply And.intro
  all_goals exact fun _ _ => .put fun _ _ _ => rfl

theorem independent_matrixFields : Independent l.matrixFields := by
  simp only [Independent, matrixFields, List.pairwise_cons, List.forall_mem_cons,
    List.not_mem_nil, false_imp_iff, implies_true, and_true, List.Pairwise.nil]
  repeat' apply And.intro
  all_goals exact fun _ _ => .put fun _ _ _ => rfl

theorem independent_layoutFields : Independent l.layoutFields := by
  simp only [Independent, layoutFields, List.pairwise_cons, List.forall_mem_cons,
    List.not_mem_nil, false_imp_iff, implies_true, and_true, List.Pairwise.nil]
  repeat' apply And.intro
  all_goals exact fun _ _ => .put fun _ _ _ => rfl

theorem independent_fontFields : Independent l.fontFields := by
  simp only [Independent, fontFields, List.pairwise_cons, List.forall_mem_cons,
    List.not_mem_nil, false_imp_iff, implies_true, and_true, List.Pairwise.nil]
  exact fun _ _ => .put fun _ _ _ => rfl

theorem independent_templateFields : Independent l.templateFields := by
  simp only [Independent, templateFields, List.pairwise_cons, List.forall_mem_cons,
    List.not_mem_nil, false_imp_iff, implies_true, and_true, List.Pairwise.nil]
  exact fun _ _ => .put fun _ _ _ => rfl

theorem independent_presetFields : Independent l.presetFields := by
  simp only [Independent, presetFields, List.pairwise_cons, List.forall_mem_cons,
    List.not_mem_nil, false_imp_iff, implies_true, and_true, List.Pairwise.nil]
  repeat' apply And.intro
  all_goals exact fun _ _ => .put fun _ _ _ => rfl

end Fields

end Loader

end RasterText
