import RasterText.Grid.Matrix
import RasterText.Proofs.Grid.Bits
set_option autoImplicit false

/-!
The bit matrix bit by bit. An operation takes every bit from the place that its shift names, if the
mask has that place; a bit is set in the result if any operation sets it, or the words that are
joined at the end.
-/

namespace RasterText

theorem Operation.testBit_apply (op : Operation) (w : UInt32) {b : Nat} (hb : b < 32) :
    (op.apply w).toNat.testBit b =
      if op.left then
        decide (op.shift ≤ b) &&
          (w.toNat.testBit (b - op.shift) && op.mask.toNat.testBit (b - op.shift))
      else w.toNat.testBit (op.shift + b) && op.mask.toNat.testBit (op.shift + b) := by
  have hm (i : Nat) : (w &&& op.mask).toNat.testBit i =
      (w.toNat.testBit i && op.mask.toNat.testBit i) := by
    rw [UInt32.toNat_and, Nat.testBit_and]
  unfold Operation.apply
  by_cases hs : 32 ≤ op.shift
  · have hr := testBit_eq_false_of_le w (by omega : 32 ≤ op.shift + b)
    simp [hs, hr, show ¬ op.shift ≤ b by omega]
  · simp only [if_neg hs]
    split
    · rw [testBit_shiftLeft (by omega), hm]
      simp [hb]
    · rw [testBit_shiftRight (by omega), hm]

theorem testBit_foldl_apply (ops : List Operation) (w acc : UInt32) (b : Nat) :
    (ops.foldl (fun acc o => acc ||| o.apply w) acc).toNat.testBit b =
      (acc.toNat.testBit b || ops.any fun o => (o.apply w).toNat.testBit b) := by
  induction ops generalizing acc with
  | nil => simp
  | cons o ops ih =>
    rw [List.foldl_cons, ih, UInt32.toNat_or, Nat.testBit_or, List.any_cons, Bool.or_assoc]

theorem Matrix.testBit_apply (m : Matrix) (w : UInt32) (b : Nat) :
    (m.apply w).toNat.testBit b =
      ((m.andMask.toNat.testBit b &&
        (if m.operations = [] then w.toNat.testBit b
          else m.operations.any fun o => (o.apply w).toNat.testBit b)) ||
        m.orMask.toNat.testBit b) := by
  unfold Matrix.apply
  rw [UInt32.toNat_or, UInt32.toNat_and, Nat.testBit_or, Nat.testBit_and, Bool.and_comm]
  cases m.operations with
  | nil => rfl
  | cons o ops => simp only [testBit_foldl_apply]; simp

namespace Operation

/-- Whether an operation moves a bit of `w` to place `b`. -/
def Moves (o : Operation) (w : UInt32) (b : Nat) : Prop :=
  if o.left then
    o.shift ≤ b ∧ w.toNat.testBit (b - o.shift) = true ∧ o.mask.toNat.testBit (b - o.shift) = true
  else
    b + o.shift < 32 ∧ w.toNat.testBit (b + o.shift) = true ∧
      o.mask.toNat.testBit (b + o.shift) = true

instance (o : Operation) (w : UInt32) (b : Nat) : Decidable (o.Moves w b) :=
  inferInstanceAs (Decidable (if o.left then _ else _))

variable {o : Operation} {w : UInt32} {b : Nat}

theorem testBit_apply_iff (hb : b < 32) : (o.apply w).toNat.testBit b = true ↔ o.Moves w b := by
  rw [testBit_apply o w hb, Moves]
  cases o.left with
  | true => simp
  | false =>
    by_cases h : b + o.shift < 32
    · simp [h, Nat.add_comm]
    · simp [h, testBit_eq_false_of_le w (by omega : 32 ≤ o.shift + b)]

theorem Moves.shift_lt (h : o.Moves w b) (hb : b < 32) : o.shift < 32 := by
  unfold Moves at h
  split at h <;> omega

end Operation

namespace Matrix

variable {m : Matrix}

theorem testBit_apply_iff (m : Matrix) (w : UInt32) (b : Nat) :
    (m.apply w).toNat.testBit b = true ↔ m.orMask.toNat.testBit b = true ∨
      m.andMask.toNat.testBit b = true ∧
        (m.operations = [] ∧ w.toNat.testBit b = true ∨ ∃ o ∈ m.operations, o.Moves w b) := by
  by_cases hb : b < 32
  · have hmoves : (m.operations.any fun o => (o.apply w).toNat.testBit b) = true ↔
        ∃ o ∈ m.operations, o.Moves w b := by
      simp only [List.any_eq_true, Operation.testBit_apply_iff hb]
    rw [Matrix.testBit_apply, Bool.or_eq_true, Bool.and_eq_true, or_comm]
    by_cases hops : m.operations = []
    · simp [hops]
    · rw [if_neg hops, hmoves]
      simp [hops]
  · simp [testBit_eq_false_of_le _ (by omega : 32 ≤ b)]

theorem apply_congr {ops : List Operation} (hops : ops ≠ []) (hm : m.operations ≠ [])
    (h : ∀ o, o.shift < 32 → (o ∈ ops ↔ o ∈ m.operations)) (w : UInt32) :
    ({ m with operations := ops } : Matrix).apply w = m.apply w := by
  refine word_ext fun b hb => Bool.eq_iff_iff.2 ?_
  have hmoves : (∃ o ∈ ops, o.Moves w b) ↔ ∃ o ∈ m.operations, o.Moves w b :=
    exists_congr fun o => and_congr_left fun ho => h o (ho.shift_lt hb)
  simp only [testBit_apply_iff, hops, hm, false_and, false_or, hmoves]

/-- A matrix that only joins what its operations move to the right. -/
structure Gathers (m : Matrix) : Prop where
  all : m.andMask = lowMask 32
  none : m.orMask = 0
  some : m.operations ≠ []
  right : ∀ o ∈ m.operations, o.left = false

theorem Gathers.testBit_apply (hm : m.Gathers) (w : UInt32) {i : Nat} (hi : i < 32) :
    (m.apply w).toNat.testBit i = m.operations.any fun o =>
      w.toNat.testBit (o.shift + i) && o.mask.toNat.testBit (o.shift + i) := by
  have hops : (m.operations.any fun o => (o.apply w).toNat.testBit i) = m.operations.any fun o =>
      w.toNat.testBit (o.shift + i) && o.mask.toNat.testBit (o.shift + i) := by
    rw [Bool.eq_iff_iff, List.any_eq_true, List.any_eq_true]
    refine exists_congr fun o => and_congr_right fun h => ?_
    rw [Operation.testBit_apply o w hi, hm.right o h]
    rfl
  rw [Matrix.testBit_apply, hm.all, hm.none, testBit_lowMask (Nat.le_refl 32), if_neg hm.some, hops]
  simp [hi]

theorem Gathers.toNat_apply (hm : m.Gathers) {o : Operation} (ho : m.operations = [o]) {n : Nat}
    (hn : n ≤ 32) (hmask : ∀ i < 32, o.mask.toNat.testBit (o.shift + i) = decide (i < n))
    (w : UInt32) : (m.apply w).toNat = w.toNat / 2 ^ o.shift % 2 ^ n := by
  apply Nat.eq_of_testBit_eq
  intro i
  rw [Nat.testBit_mod_two_pow, Nat.testBit_div_two_pow, Nat.add_comm i]
  by_cases hi : i < 32
  · rw [hm.testBit_apply w hi, ho, List.any_cons, List.any_nil, Bool.or_false, hmask i hi,
      Bool.and_comm]
  · rw [testBit_eq_false_of_le _ (by omega)]
    simp [show ¬ i < n by omega]

end Matrix

/-- A bit of a processed word is set by the mask that is joined, or under the mask that is kept: by
the word itself if there are no operations, and else by an operation that moves a bit there. The
order and the number of operations play no part, nor do shifts by the width of a word or more. -/
theorem process_bitwise (g : Grid) (m : Matrix) :
    ((g.process m).width = g.width ∧ (g.process m).height = g.height ∧
      (g.process m).words.length = g.words.length) ∧
    (∀ (k : Nat) (w : UInt32), g.words[k]? = some w → ∃ v, (g.process m).words[k]? = some v ∧
      ∀ b, v.toNat.testBit b = true ↔ m.orMask.toNat.testBit b = true ∨
        m.andMask.toNat.testBit b = true ∧
          (m.operations = [] ∧ w.toNat.testBit b = true ∨
            ∃ o ∈ m.operations, o.Moves w b)) ∧
    ∀ ops : List Operation, ops ≠ [] → m.operations ≠ [] →
      (∀ o, o.shift < 32 → (o ∈ ops ↔ o ∈ m.operations)) →
        g.process { m with operations := ops } = g.process m := by
  refine ⟨⟨rfl, rfl, List.length_map _⟩, fun k w hw => ⟨m.apply w, ?_, m.testBit_apply_iff w⟩,
    fun ops hops hm h => ?_⟩
  · rw [Grid.process, List.getElem?_map, hw, Option.map_some]
  · rw [Grid.process, Grid.process, funext (m.apply_congr hops hm h)]

def redundantMatrix : Matrix where
  used := 0xffff
  andMask := 0xfffe
  orMask := 0x8000
  operations := [⟨0xf8, 3, false⟩, ⟨0xffffffff, 32, true⟩, ⟨0xf80000, 8, false⟩, ⟨0xf8, 3, false⟩]

theorem process_bitwise_redundant :
    let g : Grid := ⟨[0xffff00ff], 1, 1⟩
    let ops : List Operation := [⟨0xf80000, 8, false⟩, ⟨0xf8, 3, false⟩]
    (g.words[0]? = some 0xffff00ff ∧ ∃ v, (g.process redundantMatrix).words[0]? = some v ∧
      v.toNat.testBit 4 = true) ∧
    ops ≠ [] ∧ redundantMatrix.operations ≠ [] ∧
      (∀ o, o.shift < 32 → (o ∈ ops ↔ o ∈ redundantMatrix.operations)) ∧
      g.process { redundantMatrix with operations := ops } = g.process redundantMatrix := by
  intro g ops
  obtain ⟨-, hbits, hcongr⟩ := process_bitwise g redundantMatrix
  obtain ⟨v, hv, hb⟩ := hbits 0 0xffff00ff rfl
  have hsame : ∀ o : Operation, o.shift < 32 → (o ∈ ops ↔ o ∈ redundantMatrix.operations) := by
    intro o ho
    simp only [ops, redundantMatrix, List.mem_cons, List.not_mem_nil, or_false]
    constructor
    · rintro (rfl | rfl) <;> simp
    · rintro (rfl | rfl | rfl | rfl) <;> simp at ho ⊢
  have hmoves : (⟨0xf8, 3, false⟩ : Operation).Moves 0xffff00ff 4 := by decide
  have hset : v.toNat.testBit 4 = true :=
    (hb 4).2 (.inr ⟨by decide, .inr ⟨_, by simp [redundantMatrix], hmoves⟩⟩)
  exact ⟨⟨rfl, v, hv, hset⟩, by decide, by decide, hsame, hcongr ops (by decide) (by decide) hsame⟩

end RasterText
