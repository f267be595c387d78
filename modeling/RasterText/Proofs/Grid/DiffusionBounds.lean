import Mathlib.Logic.Relation
import RasterText.Proofs.Grid.Diffusion
import RasterText.Proofs.Grid.Samples
set_option autoImplicit false

/-!
Bounds of error diffusion. A level is the luma and at most sixteen sixteenths of errors, and the
threshold keeps the error of such a level as small as the errors that went into it. The loop is
taken apart into single writes, so that the bounds hold between any two of them.
-/

namespace RasterText

def ErrorBounds (threshold error : Int) : Prop :=
  threshold - 255 ≤ error ∧ error ≤ max threshold 1 - 1

def LevelBounds (threshold level : Int) : Prop :=
  threshold - 255 ≤ level ∧ level ≤ 254 + max threshold 1

theorem errorShare_bounds {weight error low high : Int} (hw : 0 ≤ weight)
    (he : low ≤ error ∧ error ≤ high) (h0 : low ≤ 0 ∧ 0 ≤ high) :
    weight * low ≤ 16 * errorShare weight error ∧ 16 * errorShare weight error ≤ weight * high := by
  have hlow := Int.mul_le_mul_of_nonneg_left he.1 hw
  have hhigh := Int.mul_le_mul_of_nonneg_left he.2 hw
  have hl := Int.mul_nonpos_of_nonneg_of_nonpos hw h0.1
  have hh := Int.mul_nonneg hw h0.2
  rw [errorShare]
  generalize weight * error = n at *
  rcases Int.le_total 0 n with hn | hn
  · rw [Int.tdiv_eq_ediv_of_nonneg hn]
    omega
  · have hneg : n.tdiv 16 = -(-n / 16) := by
      rw [← Int.tdiv_eq_ediv_of_nonneg (by omega), Int.neg_tdiv, Int.neg_neg]
    omega

theorem forall_mem_of_getD {levels : Array Int} {n : Nat} {p : Int → Prop}
    (hs : levels.size = n) (h : ∀ j < n, p (levels.getD j 0)) : ∀ level ∈ levels, p level := by
  intro level hmem
  obtain ⟨j, hj, rfl⟩ := Array.mem_iff_getElem.1 hmem
  have hp := h j (hs ▸ hj)
  rwa [Array.getD, dif_pos hj] at hp

section Bounds

variable {threshold : Int}

theorem errorBounds_zero (ht : 0 ≤ threshold ∧ threshold ≤ 255) : ErrorBounds threshold 0 := by
  constructor <;> omega

theorem levelBounds_settled (ht : 0 ≤ threshold ∧ threshold ≤ 255) (level : Int) :
    LevelBounds threshold (settled threshold level) := by
  unfold settled
  split <;> constructor <;> omega

theorem levelBounds_withErrors (ht : 0 ≤ threshold ∧ threshold ≤ 255)
    {luma left aboveLeft above aboveRight : Int} (hluma : 0 ≤ luma ∧ luma ≤ 255)
    (h1 : ErrorBounds threshold left) (h2 : ErrorBounds threshold aboveLeft)
    (h3 : ErrorBounds threshold above) (h4 : ErrorBounds threshold aboveRight) :
    LevelBounds threshold (withErrors luma left aboveLeft above aboveRight) := by
  have h0 := errorBounds_zero ht
  have hleft := errorShare_bounds (by decide : (0 : Int) ≤ 7) h1 h0
  have haboveLeft := errorShare_bounds (by decide : (0 : Int) ≤ 1) h2 h0
  have habove := errorShare_bounds (by decide : (0 : Int) ≤ 5) h3 h0
  have haboveRight := errorShare_bounds (by decide : (0 : Int) ≤ 3) h4 h0
  -- the weights are sixteen together
  unfold withErrors
  constructor <;> omega

theorem errorBounds_residue {level : Int} (h : LevelBounds threshold level) :
    ErrorBounds threshold (residue threshold level) := by
  obtain ⟨hlow, hhigh⟩ := h
  unfold residue settled
  split <;> constructor <;> omega

end Bounds

theorem neighbours_bounds {width height i : Nat} {share : Nat × Int} (hi : i < width * height)
    (h : share ∈ neighbours width height i) :
    share.1 < width * height ∧ 0 ≤ share.2 ∧ share.2 ≤ 7 := by
  have hx := Nat.mod_lt i (Nat.pos_of_mul_pos_right (Nat.zero_lt_of_lt hi))
  have hy : (i / width + 1) * width ≤ height * width :=
    Nat.mul_le_mul_right width (Nat.div_lt_of_lt_mul hi)
  have hbelow : i / width + 1 < height → (i / width + 2) * width ≤ height * width :=
    Nat.mul_le_mul_right width
  have hrow := Nat.div_add_mod' i width
  rw [Nat.mul_comm width height]
  rw [Nat.add_mul] at hy hbelow
  simp only [neighbours, List.mem_append, List.mem_ite_nil_right, List.mem_singleton] at h
  rcases h with ⟨h, rfl⟩ | ⟨h, rfl⟩ | ⟨h, rfl⟩ | ⟨h, rfl⟩
  case' inr.inl => have := hbelow h.2
  case' inr.inr.inl => have := hbelow h
  case' inr.inr.inr => have := hbelow h.2
  all_goals exact ⟨by omega, by simp⟩

namespace Raster

variable {r : Raster} {threshold x y : Int} {k j : Nat}

theorem lumaAt_bounds (r : Raster) (x y : Int) : 0 ≤ r.lumaAt x y ∧ r.lumaAt x y ≤ 255 := by
  have h := (r.pixel x.toNat y.toNat).luma_lt
  unfold lumaAt
  omega

theorem errorBounds_diffusedError (ht : 0 ≤ threshold ∧ threshold ≤ 255) (x y : Int) :
    ErrorBounds threshold (r.diffusedError threshold x y) := by
  induction x, y using diffusedError.induct (r := r) with
  | case1 x y inside left aboveLeft above aboveRight =>
    rw [diffusedError_of_inside inside]
    exact errorBounds_residue
      (levelBounds_withErrors ht (r.lumaAt_bounds x y) left aboveLeft above aboveRight)
  | case2 x y outside =>
    rw [diffusedError_of_not_inside outside]
    exact errorBounds_zero ht

theorem levelBounds_arrivedLevel (ht : 0 ≤ threshold ∧ threshold ≤ 255) :
    LevelBounds threshold (r.arrivedLevel threshold k j) := by
  have arrived (x y : Int) : ErrorBounds threshold (r.arrivedError threshold k x y) := by
    unfold arrivedError
    split
    · exact errorBounds_diffusedError ht x y
    · exact errorBounds_zero ht
  exact levelBounds_withErrors ht (r.lumaAt_bounds _ _) (arrived _ _) (arrived _ _) (arrived _ _)
    (arrived _ _)

theorem Visited.levelBounds {levels : Array Int} (ht : 0 ≤ threshold ∧ threshold ≤ 255)
    (h : r.Visited threshold k levels) (hj : j < r.width * r.height) :
    LevelBounds threshold (levels.getD j 0) := by
  rcases Nat.lt_or_ge j k with hk | hk
  · rw [h.behind j hk]
    exact levelBounds_settled ht _
  · rw [h.ahead j hk hj]
    exact levelBounds_arrivedLevel ht

end Raster

/-- The pixel that is visited last still hands its error on to `shares`. -/
structure DiffusionState where
  levels : Array Int
  visited : Nat
  error : Int
  shares : List (Nat × Int)

/-- One write to the levels. -/
inductive DiffusionStep (width height : Nat) (threshold : Int) :
    DiffusionState → DiffusionState → Prop
  | visit {levels : Array Int} {i : Nat} {error : Int} (h : i < width * height) :
      DiffusionStep width height threshold ⟨levels, i, error, []⟩
        ⟨levels.setIfInBounds i (settled threshold (levels.getD i 0)), i + 1,
          residue threshold (levels.getD i 0), neighbours width height i⟩
  | give {levels : Array Int} {visited : Nat} {error : Int} {share : Nat × Int}
      {rest : List (Nat × Int)} :
      DiffusionStep width height threshold ⟨levels, visited, error, share :: rest⟩
        ⟨giveShare error levels share, visited, error, rest⟩

namespace DiffusionState

def index : DiffusionState → Nat
  | ⟨_, visited, _, []⟩ => visited
  | ⟨_, _, _, (j, _) :: _⟩ => j

/-- The results of the arithmetic before the next write. -/
def results (threshold : Int) : DiffusionState → List Int
  | ⟨levels, visited, _, []⟩ => [residue threshold (levels.getD visited 0)]
  | ⟨levels, _, error, (j, weight) :: _⟩ =>
    [error * weight, errorShare weight error, levels.getD j 0 + errorShare weight error]

def start (r : Raster) : DiffusionState := ⟨r.pixels.map fun p => (p.luma : Int), 0, 0, []⟩

variable {r : Raster} {threshold : Int} {s t : DiffusionState}

def levelsAfter (r : Raster) (threshold : Int) (k : Nat) : Array Int :=
  (List.range k).foldl (diffuseAt r.width r.height threshold)
    (r.pixels.map fun p => (p.luma : Int))

theorem levelsAfter_succ (r : Raster) (threshold : Int) (k : Nat) :
    levelsAfter r threshold (k + 1) =
      (neighbours r.width r.height k).foldl
        (giveShare (residue threshold ((levelsAfter r threshold k).getD k 0)))
        ((levelsAfter r threshold k).setIfInBounds k
          (settled threshold ((levelsAfter r threshold k).getD k 0))) := by
  rw [levelsAfter, List.range_succ, List.foldl_append, ← levelsAfter]
  exact diffuseAt_eq _ _ _ _ _

/-- The loop between two writes. The shares that wait complete the levels of the visits. -/
structure Valid (r : Raster) (threshold : Int) (s : DiffusionState) : Prop where
  visited_le : s.visited ≤ r.width * r.height
  levels_eq : s.shares.foldl (giveShare s.error) s.levels = levelsAfter r threshold s.visited
  nodup : (s.shares.map Prod.fst).Nodup
  error : ErrorBounds threshold s.error
  shares : ∀ share ∈ s.shares, (share.1 < r.width * r.height ∧ 0 ≤ share.2 ∧ share.2 ≤ 7) ∧
    LevelBounds threshold (s.levels.getD share.1 0)

theorem Valid.size (h : s.Valid r threshold) : s.levels.size = r.width * r.height := by
  rw [← size_giveShares s.error s.shares, h.levels_eq]
  exact (r.visited_foldl threshold h.visited_le).size

theorem Valid.levelBounds (ht : 0 ≤ threshold ∧ threshold ≤ 255) (h : s.Valid r threshold)
    {j : Nat} (hj : j < r.width * r.height) : LevelBounds threshold (s.levels.getD j 0) := by
  by_cases hmem : j ∈ s.shares.map Prod.fst
  · obtain ⟨share, hs, rfl⟩ := List.mem_map.1 hmem
    exact (h.shares share hs).2
  · have hlevel : (s.shares.foldl (giveShare s.error) s.levels).getD j 0 = _ :=
      getD_giveShares h.nodup (h.size.symm ▸ hj)
    rw [weightOf_eq_zero hmem, errorShare_zero_weight, Int.add_zero, h.levels_eq] at hlevel
    rw [← hlevel]
    exact (r.visited_foldl threshold h.visited_le).levelBounds ht hj

theorem valid_start (ht : 0 ≤ threshold ∧ threshold ≤ 255) : (start r).Valid r threshold where
  visited_le := Nat.zero_le _
  levels_eq := rfl
  nodup := List.nodup_nil
  error := errorBounds_zero ht
  shares := nofun

theorem Valid.step (ht : 0 ≤ threshold ∧ threshold ≤ 255) (h : s.Valid r threshold)
    (hstep : DiffusionStep r.width r.height threshold s t) : t.Valid r threshold := by
  cases hstep with
  | @visit levels i error hi =>
    have hw : 0 < r.width := Nat.pos_of_mul_pos_right (Nat.zero_lt_of_lt hi)
    have hlevels : levels = levelsAfter r threshold i := h.levels_eq
    refine ⟨hi, ?_, nodup_neighbours hw r.height i, ?_, ?_⟩
    · rw [levelsAfter_succ, ← hlevels]
    · exact errorBounds_residue (h.levelBounds ht hi)
    · -- the visit writes to none of the levels that wait for a share
      intro share hs
      have hb := neighbours_bounds hi hs
      have hlt := lt_of_mem_neighbours hw hs
      refine ⟨hb, ?_⟩
      rw [getD_setIfInBounds_of_ne hlt.ne']
      exact h.levelBounds ht hb.1
  | @give levels visited error share rest =>
    have hnodup := h.nodup
    rw [List.map_cons, List.nodup_cons] at hnodup
    refine ⟨h.visited_le, h.levels_eq, hnodup.2, h.error, fun other ho => ?_⟩
    have hother := h.shares other (List.mem_cons_of_mem _ ho)
    have hne : other.1 ≠ share.1 := fun he => hnodup.1 (he ▸ List.mem_map_of_mem ho)
    refine ⟨hother.1, ?_⟩
    rw [giveShare, getD_modify (h.size.symm ▸ hother.1.1), if_neg hne]
    exact hother.2

theorem Valid.index_lt (h : s.Valid r threshold)
    (hstep : DiffusionStep r.width r.height threshold s t) : s.index < r.width * r.height := by
  cases hstep with
  | visit hi => exact hi
  | give => exact (h.shares _ List.mem_cons_self).1.1

theorem Valid.results_fit (ht : 0 ≤ threshold ∧ threshold ≤ 255) (h : s.Valid r threshold)
    (hstep : DiffusionStep r.width r.height threshold s t) :
    ∀ n ∈ s.results threshold, -2 ^ 11 ≤ n ∧ n < 2 ^ 11 := by
  cases hstep with
  | @visit levels i error hi =>
    have hlevel : LevelBounds threshold (levels.getD i 0) := h.levelBounds ht hi
    obtain ⟨hlow, hhigh⟩ := errorBounds_residue hlevel
    simp only [results, List.mem_singleton, forall_eq]
    omega
  | @give levels visited error share rest =>
    have hweight := (h.shares share List.mem_cons_self).1.2
    have hlevel : LevelBounds threshold (levels.getD share.1 0) :=
      (h.shares share List.mem_cons_self).2
    have herror : ErrorBounds threshold error := h.error
    unfold LevelBounds at hlevel
    replace herror : -255 ≤ error ∧ error ≤ 254 := by
      obtain ⟨hlow, hhigh⟩ := herror
      constructor <;> omega
    have hproductLow := Int.mul_le_mul_of_nonneg_right herror.1 hweight.1
    have hproductHigh := Int.mul_le_mul_of_nonneg_right herror.2 hweight.1
    have hshare := errorShare_bounds hweight.1 herror (by decide)
    simp only [results, List.mem_cons, List.not_mem_nil, or_false, forall_eq_or_imp, forall_eq]
    refine ⟨?_, ?_, ?_⟩ <;> omega

theorem Valid.final (h : s.Valid r threshold)
    (hend : ∀ t, ¬DiffusionStep r.width r.height threshold s t) :
    s.levels = diffuse r.width r.height threshold (r.pixels.map fun p => (p.luma : Int)) := by
  obtain ⟨levels, visited, error, shares⟩ := s
  cases shares with
  | nil =>
    have hle := h.visited_le
    have hge : r.width * r.height ≤ visited := Nat.not_lt.1 fun hi => hend _ (.visit hi)
    obtain rfl : visited = r.width * r.height := Nat.le_antisymm hle hge
    exact h.levels_eq
  | cons share rest => exact (hend _ .give).elim

theorem reaches_gives {width height : Nat} (levels : Array Int) (visited : Nat) (error : Int)
    (shares : List (Nat × Int)) :
    Relation.ReflTransGen (DiffusionStep width height threshold) ⟨levels, visited, error, shares⟩
      ⟨shares.foldl (giveShare error) levels, visited, error, []⟩ := by
  induction shares generalizing levels with
  | nil => exact .refl
  | cons share rest ih => exact .head .give (ih _)

theorem reaches_visited (r : Raster) (threshold : Int) {k : Nat} (hk : k ≤ r.width * r.height) :
    ∃ error, Relation.ReflTransGen (DiffusionStep r.width r.height threshold) (start r)
      ⟨levelsAfter r threshold k, k, error, []⟩ := by
  induction k with
  | zero => exact ⟨0, .refl⟩
  | succ k ih =>
    obtain ⟨error, hreach⟩ := ih (by omega)
    rw [levelsAfter_succ]
    exact ⟨_, (hreach.tail (.visit hk)).trans (reaches_gives _ _ _ _)⟩

theorem valid_of_reaches (ht : 0 ≤ threshold ∧ threshold ≤ 255)
    (h : Relation.ReflTransGen (DiffusionStep r.width r.height threshold) (start r) s) :
    s.Valid r threshold := by
  induction h with
  | refl => exact valid_start ht
  | tail _ hstep ih => exact ih.step ht hstep

end DiffusionState

/-- Levels and errors stay bounded, however large the image is. No index is out of range, and no
arithmetic overflows. The loop comes to an end, with nothing but black and white. -/
theorem Raster.diffusion_bounded (r : Raster) (edge : UInt8) :
    let step := DiffusionStep r.width r.height edge.toNat
    let diffused := diffuse r.width r.height edge.toNat (r.pixels.map fun p => (p.luma : Int))
    (∀ s, Relation.ReflTransGen step (DiffusionState.start r) s →
      s.levels.size = r.width * r.height ∧
      (∀ level ∈ s.levels,
        (edge.toNat : Int) - 255 ≤ level ∧ level ≤ 254 + max (edge.toNat : Int) 1) ∧
      ((edge.toNat : Int) - 255 ≤ s.error ∧ s.error ≤ max (edge.toNat : Int) 1 - 1) ∧
      (∀ t, step s t → s.index < r.width * r.height ∧
        ∀ n ∈ s.results edge.toNat, -2 ^ 31 ≤ n ∧ n < 2 ^ 31) ∧
      ((∀ t, ¬step s t) → s.levels = diffused)) ∧
    (∃ s, Relation.ReflTransGen step (DiffusionState.start r) s ∧ ∀ t, ¬step s t) ∧
    ∀ level ∈ diffused, (level = 0 ∨ level = 255) ∧ ((clampLevel level).toNat : Int) = level := by
  intro step diffused
  have ht : 0 ≤ (edge.toNat : Int) ∧ (edge.toNat : Int) ≤ 255 := by
    have := edge.toNat_lt
    omega
  refine ⟨fun s hreach => ?_, ?_, ?_⟩
  · have hvalid := DiffusionState.valid_of_reaches ht hreach
    refine ⟨hvalid.size, forall_mem_of_getD hvalid.size fun j hj => hvalid.levelBounds ht hj,
      hvalid.error, fun t hstep => ⟨hvalid.index_lt hstep, fun n hn => ?_⟩, hvalid.final⟩
    have hfit := hvalid.results_fit ht hstep n hn
    omega
  · obtain ⟨error, hreach⟩ := DiffusionState.reaches_visited r edge.toNat (Nat.le_refl _)
    refine ⟨_, hreach, fun t hstep => ?_⟩
    cases hstep with
    | visit hi => exact Nat.lt_irrefl _ hi
  · have hv := r.visited_diffuse edge.toNat
    refine forall_mem_of_getD hv.size fun j hj => ?_
    rw [hv.behind j hj, settled]
    split <;> decide

theorem Raster.diffusion_bounded_gray :
    let gray : Raster := ⟨2, 1, .replicate 2 ⟨128, 128, 128, 255⟩, by decide⟩
    let step := DiffusionStep 2 1 128
    ∃ s, (step (.start gray) s ∧ Relation.ReflTransGen step (.start gray) s) ∧
      s.levels = #[255, 128] ∧ s.error = -127 ∧ (-127 ≤ s.error ∧ s.error ≤ 127) ∧
      s.index < 2 ∧ s.results 128 = [-889, -55, 73] := by
  intro gray step
  have hstart : DiffusionState.start gray = ⟨#[128, 128], 0, 0, []⟩ := by
    have hluma : (⟨128, 128, 128, 255⟩ : Pixel).luma = 128 := rfl
    simp only [DiffusionState.start, gray, Array.map_replicate, hluma]
    rfl
  have hstep : step (.start gray) ⟨#[255, 128], 1, -127, [(1, 7)]⟩ :=
    hstart ▸ @DiffusionStep.visit 2 1 128 #[128, 128] 0 0 (by decide)
  obtain ⟨-, -, herror, hnext, -⟩ := (gray.diffusion_bounded 128).1 _ (.single hstep)
  exact ⟨_, ⟨hstep, .single hstep⟩, rfl, rfl, herror, (hnext _ .give).1, by decide⟩

end RasterText
