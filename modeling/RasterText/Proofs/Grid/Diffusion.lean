import Mathlib.Algebra.Order.Ring.Int
import Mathlib.Tactic.Lift
import Mathlib.Tactic.SplitIfs
import RasterText.Proofs.Grid.Rows
set_option autoImplicit false

/-!
Error diffusion as a recurrence over the image. The loop hands the error of a pixel on to neighbours
that are still to come. Seen from such a neighbour, it takes over shares of the errors of the four
neighbours before it, and these have all arrived when the loop visits it.
-/

namespace RasterText

def settled (threshold level : Int) : Int := if threshold ≤ level then 255 else 0

def residue (threshold level : Int) : Int := level - settled threshold level

/-- A level with the shares of the errors of the left neighbour and of three in the row above. -/
def withErrors (level left aboveLeft above aboveRight : Int) : Int :=
  level + errorShare 7 left + errorShare 1 aboveLeft + errorShare 5 above + errorShare 3 aboveRight

namespace Raster

def Inside (r : Raster) (x y : Int) : Prop := (0 ≤ x ∧ x < r.width) ∧ 0 ≤ y ∧ y < r.height

instance (r : Raster) (x y : Int) : Decidable (r.Inside x y) :=
  inferInstanceAs (Decidable (_ ∧ _))

def lumaAt (r : Raster) (x y : Int) : Int := (r.pixel x.toNat y.toNat).luma

/-- The error of the pixel in column `x` of row `y`. There is none outside of the image. -/
def diffusedError (r : Raster) (threshold x y : Int) : Int :=
  if _h : r.Inside x y then
    residue threshold (withErrors (r.lumaAt x y) (r.diffusedError threshold (x - 1) y)
      (r.diffusedError threshold (x - 1) (y - 1)) (r.diffusedError threshold x (y - 1))
      (r.diffusedError threshold (x + 1) (y - 1)))
  else 0
termination_by ((y + 1).toNat, (x + 1).toNat)
decreasing_by
  · have hx := _h.1
    exact Prod.Lex.right _ (by omega)
  all_goals
    have hy := _h.2
    exact Prod.Lex.left _ _ (by omega)

/-- The level of a pixel when it is compared with the threshold. -/
def diffusedLevel (r : Raster) (threshold x y : Int) : Int :=
  withErrors (r.lumaAt x y) (r.diffusedError threshold (x - 1) y)
    (r.diffusedError threshold (x - 1) (y - 1)) (r.diffusedError threshold x (y - 1))
    (r.diffusedError threshold (x + 1) (y - 1))

end Raster

/-- The neighbours that the pixel at index `i` hands its error on to, each with its weight out of
sixteen. -/
def neighbours (width height i : Nat) : List (Nat × Int) :=
  let last := i % width + 1 = width
  let below := i / width + 1 < height
  (if ¬last then [(i + 1, 7)] else []) ++
    ((if 0 < i % width ∧ below then [(i + width - 1, 3)] else []) ++
      ((if below then [(i + width, 5)] else []) ++
        if ¬last ∧ below then [(i + width + 1, 1)] else []))

def giveShare (error : Int) (levels : Array Int) (share : Nat × Int) : Array Int :=
  levels.modify share.1 (· + errorShare share.2 error)

def weightOf (shares : List (Nat × Int)) (j : Nat) : Int := (shares.lookup j).getD 0

theorem diffuseAt_eq (width height : Nat) (threshold : Int) (levels : Array Int) (i : Nat) :
    diffuseAt width height threshold levels i =
      (neighbours width height i).foldl (giveShare (residue threshold (levels.getD i 0)))
        (levels.setIfInBounds i (settled threshold (levels.getD i 0))) := by
  have hgive (c : Prop) [Decidable c] (error weight : Int) (j : Nat) (a : Array Int) :
      (if c then [(j, weight)] else []).foldl (giveShare error) a =
        if c then a.modify j (· + errorShare weight error) else a := by
    by_cases h : c <;> simp [h, giveShare]
  simp only [neighbours, List.foldl_append, hgive]
  rfl

@[simp] theorem errorShare_zero_weight (error : Int) : errorShare 0 error = 0 := by
  simp [errorShare]

@[simp] theorem errorShare_zero (weight : Int) : errorShare weight 0 = 0 := by
  simp [errorShare]

@[simp] theorem size_giveShares (error : Int) (shares : List (Nat × Int)) (levels : Array Int) :
    (shares.foldl (giveShare error) levels).size = levels.size := by
  induction shares generalizing levels with
  | nil => rfl
  | cons share rest ih => rw [List.foldl_cons, ih, giveShare, Array.size_modify]

theorem getD_modify {levels : Array Int} {j : Nat} (h : j < levels.size) (i : Nat)
    (f : Int → Int) :
    (levels.modify i f).getD j 0 = if j = i then f (levels.getD j 0) else levels.getD j 0 := by
  by_cases hj : j = i
  · subst hj
    simp [Array.getElem_modify, h]
  · simp [Array.getElem_modify, h, hj, Ne.symm hj]

theorem getD_setIfInBounds_of_ne {levels : Array Int} {i j : Nat} (h : j ≠ i) (level : Int) :
    (levels.setIfInBounds i level).getD j 0 = levels.getD j 0 := by
  simp [Array.getElem?_setIfInBounds_ne h.symm]

theorem weightOf_eq_zero {shares : List (Nat × Int)} {j : Nat} (h : j ∉ shares.map Prod.fst) :
    weightOf shares j = 0 := by
  have hl : shares.lookup j = none := by
    refine List.lookup_eq_none_iff.2 fun share hs => bne_iff_ne.2 ?_
    rintro rfl
    exact h (List.mem_map_of_mem hs)
  rw [weightOf, hl, Option.getD_none]

theorem getD_giveShares {error : Int} {shares : List (Nat × Int)} {levels : Array Int} {j : Nat}
    (hn : (shares.map Prod.fst).Nodup) (h : j < levels.size) :
    (shares.foldl (giveShare error) levels).getD j 0 =
      levels.getD j 0 + errorShare (weightOf shares j) error := by
  induction shares generalizing levels with
  | nil => simp [weightOf]
  | cons share rest ih =>
    obtain ⟨i, weight⟩ := share
    rw [List.map_cons, List.nodup_cons] at hn
    have hs : j < (giveShare error levels (i, weight)).size := by simpa [giveShare] using h
    rw [List.foldl_cons, ih hn.2 hs, giveShare, getD_modify h]
    by_cases hj : j = i
    · subst hj
      rw [weightOf_eq_zero hn.1]
      simp [weightOf]
    · have hbeq : (j == i) = false := by simpa using hj
      simp [weightOf, List.lookup_cons, hj, hbeq]

theorem index_eq_iff {width x y j : Nat} (hx : x < width) :
    j = y * width + x ↔ j % width = x ∧ j / width = y := by
  constructor
  · rintro rfl
    exact ⟨by rw [Nat.mul_add_mod_self_right, Nat.mod_eq_of_lt hx],
      by rw [Nat.add_comm, Nat.add_mul_div_right _ _ (by omega), Nat.div_eq_of_lt hx, Nat.zero_add]⟩
  · rintro ⟨rfl, rfl⟩
    rw [Nat.mul_comm, Nat.div_add_mod]

theorem nodup_neighbours {width : Nat} (hw : 0 < width) (height i : Nat) :
    ((neighbours width height i).map Prod.fst).Nodup := by
  have hx := Nat.mod_lt i hw
  by_cases hl : i % width + 1 = width <;> by_cases hf : 0 < i % width <;>
    by_cases hb : i / width + 1 < height <;> simp [neighbours, hl, hf, hb] <;> omega

theorem lookup_ite (c : Prop) [Decidable c] (i j : Nat) (weight : Int) :
    (if c then [(i, weight)] else []).lookup j = if c ∧ j = i then some weight else none := by
  by_cases hc : c
  · by_cases hj : j = i
    · simp [hc, hj]
    · have hbeq : (j == i) = false := by simpa using hj
      simp [hc, hj, hbeq, List.lookup_cons]
  · simp [hc]

theorem and_eq_index_iff {width j t x y : Nat} {c : Prop} (hc : c → x < width ∧ t = y * width + x)
    (h : j % width = x → j / width = y → c) : c ∧ j = t ↔ j % width = x ∧ j / width = y := by
  constructor
  · rintro ⟨h1, rfl⟩
    exact (index_eq_iff (hc h1).1).1 (hc h1).2
  · rintro ⟨h1, h2⟩
    obtain ⟨hx, rfl⟩ := hc (h h1 h2)
    exact ⟨h h1 h2, (index_eq_iff hx).2 ⟨h1, h2⟩⟩

theorem weightOf_neighbours {width height i j : Nat} (hw : 0 < width) (hj : j / width < height) :
    weightOf (neighbours width height i) j =
      if j % width = i % width + 1 ∧ j / width = i / width then 7
      else if j % width + 1 = i % width ∧ j / width = i / width + 1 then 3
      else if j % width = i % width ∧ j / width = i / width + 1 then 5
      else if j % width = i % width + 1 ∧ j / width = i / width + 1 then 1 else 0 := by
  have hx := Nat.mod_lt i hw
  have hx' := Nat.mod_lt j hw
  have hi : i = i / width * width + i % width := (index_eq_iff hx).2 ⟨rfl, rfl⟩
  have hnext : (i / width + 1) * width = i / width * width + width := Nat.succ_mul _ _
  have right : ¬i % width + 1 = width ∧ j = i + 1 ↔
      j % width = i % width + 1 ∧ j / width = i / width :=
    and_eq_index_iff (by omega) (by omega)
  have left : (0 < i % width ∧ i / width + 1 < height) ∧ j = i + width - 1 ↔
      j % width + 1 = i % width ∧ j / width = i / width + 1 := by
    rcases Nat.eq_zero_or_pos (i % width) with h0 | h0
    · simp [h0]
    · have h : (0 < i % width ∧ i / width + 1 < height) ∧ j = i + width - 1 ↔
          j % width = i % width - 1 ∧ j / width = i / width + 1 :=
        and_eq_index_iff (by omega) (by omega)
      omega
  have below : i / width + 1 < height ∧ j = i + width ↔
      j % width = i % width ∧ j / width = i / width + 1 :=
    and_eq_index_iff (by omega) (by omega)
  have corner : (¬i % width + 1 = width ∧ i / width + 1 < height) ∧ j = i + width + 1 ↔
      j % width = i % width + 1 ∧ j / width = i / width + 1 :=
    and_eq_index_iff (by omega) (by omega)
  simp only [weightOf, neighbours, List.lookup_append, lookup_ite, right, left, below, corner]
  split_ifs <;> rfl

theorem lt_of_mem_neighbours {width height i : Nat} {share : Nat × Int} (hw : 0 < width)
    (h : share ∈ neighbours width height i) : i < share.1 := by
  have hx := Nat.mod_lt i hw
  simp only [neighbours, List.mem_append, List.mem_ite_nil_right, List.mem_singleton] at h
  rcases h with ⟨_, rfl⟩ | ⟨_, rfl⟩ | ⟨_, rfl⟩ | ⟨_, rfl⟩ <;> omega

theorem weightOf_of_lt {width height i j : Nat} (hw : 0 < width) (h : j < i) :
    weightOf (neighbours width height i) j = 0 := by
  refine weightOf_eq_zero fun hmem => ?_
  obtain ⟨share, hs, rfl⟩ := List.mem_map.1 hmem
  have hlt := lt_of_mem_neighbours hw hs
  omega

section Visit

variable {width height i j : Nat} {threshold : Int} {levels : Array Int}

@[simp] theorem size_diffuseAt :
    (diffuseAt width height threshold levels i).size = levels.size := by
  rw [diffuseAt_eq, size_giveShares, Array.size_setIfInBounds]

theorem getD_diffuseAt (hw : 0 < width) (hj : j / width < height) (hs : j < levels.size) :
    (diffuseAt width height threshold levels i).getD j 0 =
      if j = i then settled threshold (levels.getD i 0)
      else levels.getD j 0 +
        errorShare (weightOf (neighbours width height i) j)
          (residue threshold (levels.getD i 0)) := by
  rw [diffuseAt_eq, getD_giveShares (nodup_neighbours hw height i) (by simpa using hs)]
  by_cases h : j = i
  · subst h
    simp [weightOf_neighbours hw hj, hs]
  · rw [if_neg h, getD_setIfInBounds_of_ne h]

end Visit

namespace Raster

variable {r : Raster} {threshold x y : Int} {k j : Nat}

theorem lumaAt_natCast (x y : Nat) : r.lumaAt x y = (r.pixel x y).luma := rfl

theorem diffusedError_of_inside (h : r.Inside x y) :
    r.diffusedError threshold x y = residue threshold (r.diffusedLevel threshold x y) := by
  rw [diffusedError, dif_pos h, diffusedLevel]

theorem diffusedError_of_not_inside (h : ¬r.Inside x y) : r.diffusedError threshold x y = 0 := by
  rw [diffusedError, dif_neg h]

/-- The error of a pixel, once the loop has visited `k` pixels. -/
def arrivedError (r : Raster) (threshold : Int) (k : Nat) (x y : Int) : Int :=
  if y * r.width + x < k then r.diffusedError threshold x y else 0

def arrivedLevel (r : Raster) (threshold : Int) (k j : Nat) : Int :=
  let x : Int := (j % r.width : Nat)
  let y : Int := (j / r.width : Nat)
  withErrors (r.lumaAt x y) (r.arrivedError threshold k (x - 1) y)
    (r.arrivedError threshold k (x - 1) (y - 1)) (r.arrivedError threshold k x (y - 1))
    (r.arrivedError threshold k (x + 1) (y - 1))

theorem arrivedError_zero : r.arrivedError threshold 0 x y = 0 := by
  rw [arrivedError]
  split
  · next h =>
    refine diffusedError_of_not_inside fun ⟨hx, hy⟩ => ?_
    have hp : 0 ≤ y * (r.width : Int) := Int.mul_nonneg hy.1 (Int.natCast_nonneg _)
    omega
  · rfl

theorem arrivedError_succ : r.arrivedError threshold (k + 1) x y =
    if x = (k % r.width : Nat) ∧ y = (k / r.width : Nat) then r.diffusedError threshold x y
    else r.arrivedError threshold k x y := by
  by_cases hin : r.Inside x y
  · obtain ⟨⟨hx, hxw⟩, hy, hyh⟩ := hin
    lift x to Nat using hx
    lift y to Nat using hy
    have hk : y * r.width + x = k ↔ x = k % r.width ∧ y = k / r.width := by
      rw [eq_comm, index_eq_iff (by omega)]
      omega
    simp only [arrivedError, Nat.cast_inj]
    norm_cast
    simp only [← hk]
    split_ifs <;> first | rfl | omega
  · simp [arrivedError, diffusedError_of_not_inside hin]

theorem index_cast (r : Raster) (k : Nat) :
    ((k / r.width : Nat) : Int) * r.width + (k % r.width : Nat) = k := by
  exact_mod_cast Nat.div_add_mod' k r.width

theorem errorShare_arrivedError_succ (weight : Int) :
    errorShare weight (r.arrivedError threshold (k + 1) x y) =
      errorShare weight (r.arrivedError threshold k x y) +
        if x = (k % r.width : Nat) ∧ y = (k / r.width : Nat) then
          errorShare weight (r.diffusedError threshold (k % r.width : Nat) (k / r.width : Nat))
        else 0 := by
  rw [arrivedError_succ]
  split
  · next h =>
    have hk := r.index_cast k
    rw [arrivedError, if_neg (by rw [h.1, h.2]; omega), errorShare_zero, Int.zero_add, h.1, h.2]
  · rw [Int.add_zero]

/-- When a pixel is visited, all errors that it takes a share of have arrived. -/
theorem arrivedLevel_self (hw : 0 < r.width) : r.arrivedLevel threshold j j =
    r.diffusedLevel threshold (j % r.width : Nat) (j / r.width : Nat) := by
  have hx := Nat.mod_lt j hw
  have hj := r.index_cast j
  have hy := Int.sub_mul (j / r.width : Nat) 1 r.width
  have before {x' y' : Int} (h : r.Inside x' y' → y' * r.width + x' < j) :
      r.arrivedError threshold j x' y' = r.diffusedError threshold x' y' := by
    rw [arrivedError]
    split
    · rfl
    · next hn => rw [diffusedError_of_not_inside fun hin => hn (h hin)]
  rw [arrivedLevel, diffusedLevel, before, before, before, before]
  all_goals
    rintro ⟨hx', hy'⟩
    omega

theorem arrivedLevel_succ (hw : 0 < r.width) (hj : j / r.width < r.height) :
    r.arrivedLevel threshold (k + 1) j = r.arrivedLevel threshold k j +
      errorShare (weightOf (neighbours r.width r.height k) j)
        (r.diffusedError threshold (k % r.width : Nat) (k / r.width : Nat)) := by
  simp only [arrivedLevel, withErrors, errorShare_arrivedError_succ, weightOf_neighbours hw hj]
  -- at most one of the four neighbours of `j` is the pixel that is visited
  split_ifs <;> first | omega | (rw [errorShare_zero_weight]; omega)

structure Visited (r : Raster) (threshold : Int) (k : Nat) (levels : Array Int) : Prop where
  size : levels.size = r.width * r.height
  behind : ∀ j < k, levels.getD j 0 =
    settled threshold (r.diffusedLevel threshold (j % r.width : Nat) (j / r.width : Nat))
  ahead : ∀ j, k ≤ j → j < r.width * r.height → levels.getD j 0 = r.arrivedLevel threshold k j

theorem inside_of_lt (h : j < r.width * r.height) :
    0 < r.width ∧ j / r.width < r.height ∧ r.Inside (j % r.width : Nat) (j / r.width : Nat) := by
  have hw : 0 < r.width := Nat.pos_of_mul_pos_right (Nat.zero_lt_of_lt h)
  have hx := Nat.mod_lt j hw
  have hy := Nat.div_lt_of_lt_mul h
  refine ⟨hw, hy, ⟨Int.natCast_nonneg _, ?_⟩, Int.natCast_nonneg _, ?_⟩
  · exact_mod_cast hx
  · exact_mod_cast hy

theorem Visited.zero (r : Raster) (threshold : Int) :
    r.Visited threshold 0 (r.pixels.map fun p => (p.luma : Int)) where
  size := by rw [Array.size_map, r.size_eq]
  behind := nofun
  ahead j _ h := by
    have hs : j < r.pixels.size := by rwa [r.size_eq]
    have hj : j / r.width * r.width + j % r.width = j := by rw [Nat.mul_comm, Nat.div_add_mod]
    have hp : r.pixel (j % r.width) (j / r.width) = r.pixels[j] := by simp [pixel, hj, hs]
    simp only [arrivedLevel, arrivedError_zero, withErrors, errorShare_zero, Int.add_zero,
      lumaAt_natCast, hp]
    simp [hs]

theorem Visited.succ {levels : Array Int} (h : r.Visited threshold k levels)
    (hk : k < r.width * r.height) :
    r.Visited threshold (k + 1) (diffuseAt r.width r.height threshold levels k) := by
  have ⟨hw, hy, hin⟩ := inside_of_lt hk
  have hlevel : levels.getD k 0 =
      r.diffusedLevel threshold (k % r.width : Nat) (k / r.width : Nat) := by
    rw [h.ahead k (Nat.le_refl k) hk, arrivedLevel_self hw]
  have visit {j : Nat} (hj : j < r.width * r.height) :
      (diffuseAt r.width r.height threshold levels k).getD j 0 = _ :=
    getD_diffuseAt hw (Nat.div_lt_of_lt_mul hj) (h.size.symm ▸ hj)
  constructor
  case size => rw [size_diffuseAt, h.size]
  case behind =>
    -- no share goes back to a pixel that has been visited
    intro j hj
    rw [visit (by omega)]
    split
    · next he => rw [hlevel, he]
    · rw [h.behind j (by omega)]
      simp [weightOf_of_lt hw (j := j) (i := k) (by omega)]
  case ahead =>
    intro j hj hlt
    rw [visit hlt, if_neg (by omega), h.ahead j (by omega) hlt, hlevel,
      ← diffusedError_of_inside hin, arrivedLevel_succ hw (Nat.div_lt_of_lt_mul hlt)]

theorem visited_foldl (r : Raster) (threshold : Int) {k : Nat} (hk : k ≤ r.width * r.height) :
    r.Visited threshold k ((List.range k).foldl (diffuseAt r.width r.height threshold)
      (r.pixels.map fun p => (p.luma : Int))) := by
  induction k with
  | zero => exact Visited.zero r threshold
  | succ k ih =>
    rw [List.range_succ, List.foldl_append]
    exact (ih (by omega)).succ (by omega)

theorem visited_diffuse (r : Raster) (threshold : Int) :
    r.Visited threshold (r.width * r.height)
      (diffuse r.width r.height threshold (r.pixels.map fun p => (p.luma : Int))) :=
  r.visited_foldl threshold (Nat.le_refl _)

theorem clampLevel_settled (threshold level : Int) :
    clampLevel (settled threshold level) = if threshold ≤ level then 255 else 0 := by
  unfold settled
  split <;> rfl

/-- Error diffusion compares the luma with the threshold, to which shares of the errors of the left
neighbour and of the three neighbours above are added. There are no errors outside of the image. -/
theorem pixel_reduceDiffuse (r : Raster) (edge : UInt8) :
    let v := r.diffusedLevel edge.toNat
    let e := r.diffusedError edge.toNat
    (r.reduceDiffuse edge).width = r.width ∧ (r.reduceDiffuse edge).height = r.height ∧
      (∀ x y : Nat, x < r.width → y < r.height →
        v x y = (r.pixel x y).luma + (7 * e (x - 1) y).tdiv 16 + (1 * e (x - 1) (y - 1)).tdiv 16 +
            (5 * e x (y - 1)).tdiv 16 + (3 * e (x + 1) (y - 1)).tdiv 16 ∧
        ∃ level : UInt8, level = (if (edge.toNat : Int) ≤ v x y then 255 else 0) ∧
          (r.reduceDiffuse edge).pixel x y = ⟨level, level, level, (r.pixel x y).alpha⟩ ∧
          e x y = v x y - level.toNat) ∧
      ∀ x y : Int, x < 0 ∨ r.width ≤ x ∨ y < 0 ∨ r.height ≤ y → e x y = 0 := by
  refine ⟨rfl, rfl, fun x y hx hy => ⟨rfl, _, rfl, ?_, ?_⟩, fun x y h => ?_⟩
  · have hi : y * r.width + x < r.width * r.height := r.size_eq ▸ index_lt hx hy
    have hlevel := (r.visited_diffuse edge.toNat).behind _ hi
    obtain ⟨hcolumn, hrow⟩ := (index_eq_iff hx).1 (rfl : y * r.width + x = _)
    rw [hcolumn, hrow] at hlevel
    rw [reduceDiffuse, pixel_mapIdx _ hx hy, hlevel, clampLevel_settled]
    rfl
  · rw [diffusedError_of_inside ⟨⟨by omega, by omega⟩, by omega, by omega⟩, residue, settled]
    split <;> rfl
  · exact diffusedError_of_not_inside fun ⟨hx, hy⟩ => by omega

theorem pixel_reduceDiffuse_gray :
    let gray : Raster := ⟨2, 2, .replicate 4 ⟨128, 128, 128, 7⟩, by decide⟩
    (1 < gray.width ∧ 1 < gray.height) ∧ gray.diffusedLevel 128 1 1 = 187 ∧
      (gray.reduceDiffuse 128).pixel 1 1 = ⟨255, 255, 255, 7⟩ := by
  intro gray
  obtain ⟨-, -, inside, outside⟩ := gray.pixel_reduceDiffuse 128
  have out {x y : Int} (h : x < 0 ∨ 2 ≤ x ∨ y < 0 ∨ 2 ≤ y) : gray.diffusedError 128 x y = 0 :=
    outside x y h
  have same : ∀ x < 2, ∀ y < 2, gray.pixel x y = ⟨128, 128, 128, 7⟩ := by decide
  have luma : (⟨128, 128, 128, 7⟩ : Pixel).luma = 128 := rfl
  obtain ⟨v00, level00, rfl, -, e00⟩ := inside 0 0 (by decide) (by decide)
  obtain ⟨v10, level10, rfl, -, e10⟩ := inside 1 0 (by decide) (by decide)
  obtain ⟨v01, level01, rfl, -, e01⟩ := inside 0 1 (by decide) (by decide)
  obtain ⟨v11, level11, rfl, p11, -⟩ := inside 1 1 (by decide) (by decide)
  replace v00 : gray.diffusedLevel 128 0 0 = 128 := by simpa [out, same, luma] using v00
  replace e00 : gray.diffusedError 128 0 0 = -127 := by simpa [v00] using e00
  replace v10 : gray.diffusedLevel 128 1 0 = 73 := by simpa [out, same, luma, e00] using v10
  replace e10 : gray.diffusedError 128 1 0 = 73 := by simpa [v10] using e10
  replace v01 : gray.diffusedLevel 128 0 1 = 102 := by simpa [out, same, luma, e00, e10] using v01
  replace e01 : gray.diffusedError 128 0 1 = 102 := by simpa [v01] using e01
  replace v11 : gray.diffusedLevel 128 1 1 = 187 := by
    simpa [out, same, luma, e00, e10, e01] using v11
  exact ⟨by decide, v11, by simpa [same, v11] using p11⟩

end Raster

end RasterText
