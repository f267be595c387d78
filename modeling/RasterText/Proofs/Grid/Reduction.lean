import Mathlib.Data.List.Basic
import RasterText.Proofs.Grid.Diffusion
set_option autoImplicit false

/-!
Colour reduction comes to rest after one step. Every reduction gives each pixel a level, and to a
pixel of that level it gives the same level again. In error diffusion this is so because a black or
white pixel leaves no error for its neighbours.
-/

namespace RasterText

theorem Pixel.luma_withLevel (p : Pixel) (level : UInt8) :
    (p.withLevel level).luma = level.toNat := by
  simp only [luma, withLevel]
  omega

section Levels

variable {threshold level : Nat} {v : Int}

theorem blackOrWhite_cases (threshold level : Nat) :
    blackOrWhite threshold level = 0 ∨ blackOrWhite threshold level = 255 := by
  unfold blackOrWhite
  split <;> simp

theorem blackOrWhite_blackOrWhite (h : threshold ≤ 255) :
    blackOrWhite threshold (blackOrWhite threshold level).toNat = blackOrWhite threshold level := by
  by_cases hl : threshold ≤ level
  · simp [blackOrWhite, hl, h]
  · simp [blackOrWhite, hl, show ¬threshold = 0 by omega]

theorem bayerThreshold_le (x y : Nat) : bayerThreshold x y ≤ 248 := by
  have h : ∀ y < 4, ∀ x < 4, bayerThreshold x y ≤ 248 := by decide
  have hm : bayerThreshold x y = bayerThreshold (x % 4) (y % 4) := by
    simp only [bayerThreshold, Nat.mod_mod]
  exact hm ▸ h _ (Nat.mod_lt y (by decide)) _ (Nat.mod_lt x (by decide))

theorem settled_cases (threshold v : Int) :
    settled threshold v = 0 ∨ settled threshold v = 255 := by
  unfold settled
  split <;> simp

theorem settled_settled {threshold : Int} (hpos : 1 ≤ threshold) (h : threshold ≤ 255) :
    settled threshold (settled threshold v) = settled threshold v := by
  rcases settled_cases threshold v with hv | hv
  · rw [hv, settled, if_neg (by omega)]
  · rw [hv, settled, if_pos h]

theorem toNat_clampLevel_settled (threshold v : Int) :
    ((clampLevel (settled threshold v)).toNat : Int) = settled threshold v := by
  rcases settled_cases threshold v with hv | hv <;> rw [hv] <;> rfl

end Levels

section Rest

variable {width height i : Nat} {threshold : Int} {levels : Array Int}

theorem giveShare_zero (share : Nat × Int) : giveShare 0 levels share = levels := by
  simp only [giveShare, errorShare_zero, Int.add_zero]
  apply Array.ext <;> simp [Array.getElem_modify]

theorem diffuseAt_of_settled
    (h : settled threshold (levels.getD i 0) = levels.getD i 0) :
    diffuseAt width height threshold levels i = levels := by
  have hset : levels.setIfInBounds i (levels.getD i 0) = levels := by
    apply Array.ext
    · simp
    · intro j hj hj'
      rw [Array.getElem_setIfInBounds hj']
      split
      · next he => simp [he, hj']
      · rfl
  rw [diffuseAt_eq, residue, h, Int.sub_self, hset]
  exact List.foldl_fixed' giveShare_zero _

theorem diffuse_of_settled
    (h : ∀ i, settled threshold (levels.getD i 0) = levels.getD i 0) :
    diffuse width height threshold levels = levels :=
  List.foldl_fixed' (fun i => diffuseAt_of_settled (h i)) _

end Rest

namespace Raster

/-- Gives every pixel a level, which may depend on its index and on the pixel. -/
def withLevels (level : Nat → Pixel → UInt8) (r : Raster) : Raster :=
  r.mapIdx fun i p => p.withLevel (level i p)

variable {r : Raster}

theorem ext_pixels {r s : Raster} (hw : r.width = s.width) (hh : r.height = s.height)
    (hp : r.pixels = s.pixels) : r = s := by
  cases r
  cases s
  cases hw
  cases hh
  cases hp
  rfl

theorem withLevels_withLevels (f g : Nat → Pixel → UInt8) (r : Raster) :
    (r.withLevels f).withLevels g = r.withLevels fun i p => g i (p.withLevel (f i p)) :=
  ext_pixels rfl rfl Array.mapIdx_mapIdx

theorem map_withLevel (level : Pixel → UInt8) (r : Raster) :
    r.map (fun p => p.withLevel (level p)) = r.withLevels fun _ => level :=
  ext_pixels rfl rfl (Array.ext (by simp [withLevels, mapIdx, map]) fun i hi hi' => by
    simp [withLevels, mapIdx, map])

theorem inverse_withLevels (f : Nat → Pixel → UInt8) (r : Raster) :
    (r.withLevels f).map Pixel.inverse = r.withLevels fun i p => 255 - f i p :=
  ext_pixels rfl rfl (Array.ext (by simp [withLevels, mapIdx, map]) fun i hi hi' => by
    simp [withLevels, mapIdx, map, Pixel.inverse, Pixel.withLevel])

theorem reduceEdge_reduceEdge (edge : UInt8) (r : Raster) :
    (r.reduceEdge edge).reduceEdge edge = r.reduceEdge edge := by
  have hedge : edge.toNat ≤ 255 := by have := edge.toNat_lt; omega
  simp only [reduceEdge, map_withLevel, withLevels_withLevels, Pixel.luma_withLevel,
    blackOrWhite_blackOrWhite hedge]

theorem reduceOrdered_reduceOrdered (r : Raster) :
    r.reduceOrdered.reduceOrdered = r.reduceOrdered := by
  have hx (s : Raster) : s.reduceOrdered = s.withLevels fun i p =>
    blackOrWhite (bayerThreshold (i % s.width) (i / s.width)) p.luma := rfl
  have hwidth : r.reduceOrdered.width = r.width := rfl
  have hbound (i : Nat) := Nat.le_trans (bayerThreshold_le (i % r.width) (i / r.width))
    (by decide : 248 ≤ 255)
  rw [hx r.reduceOrdered, hwidth, hx r, withLevels_withLevels]
  simp only [Pixel.luma_withLevel, blackOrWhite_blackOrWhite (hbound _)]

theorem reduceGray_reduceGray (r : Raster) : r.reduceGray.reduceGray = r.reduceGray := by
  simp only [reduceGray, map_withLevel, withLevels_withLevels, Pixel.luma_withLevel,
    UInt8.ofNat_toNat]

def diffusedLevels (r : Raster) (threshold : Int) : Array Int :=
  diffuse r.width r.height threshold (r.pixels.map fun p => (p.luma : Int))

theorem reduceDiffuse_eq (edge : UInt8) (r : Raster) : r.reduceDiffuse edge =
    r.withLevels fun i _ => clampLevel ((r.diffusedLevels edge.toNat).getD i 0) := rfl

theorem exists_settled {i : Nat} (hi : i < r.pixels.size) (threshold : Int) :
    ∃ v, (r.diffusedLevels threshold).getD i 0 = settled threshold v :=
  ⟨_, (r.visited_diffuse threshold).behind i (r.size_eq ▸ hi)⟩

theorem luma_reduceDiffuse (edge : UInt8) (r : Raster) :
    ((r.reduceDiffuse edge).pixels.map fun p => (p.luma : Int)) =
      r.diffusedLevels edge.toNat := by
  have hsize : (r.diffusedLevels edge.toNat).size = r.pixels.size := by
    rw [r.size_eq, ← (r.visited_diffuse edge.toNat).size]
    rfl
  apply Array.ext
  · simp [reduceDiffuse_eq, withLevels, mapIdx, hsize]
  · intro i hi hi'
    have hr : i < r.pixels.size := hsize ▸ hi'
    obtain ⟨v, hv⟩ := exists_settled hr edge.toNat
    have hclamp := toNat_clampLevel_settled edge.toNat v
    rw [← hv] at hclamp
    simpa [reduceDiffuse_eq, withLevels, mapIdx, Pixel.luma_withLevel, hi'] using hclamp

theorem reduceDiffuse_reduceDiffuse {edge : UInt8} (h : 1 ≤ edge) (r : Raster) :
    (r.reduceDiffuse edge).reduceDiffuse edge = r.reduceDiffuse edge := by
  have hpos : 1 ≤ (edge.toNat : Int) := by exact_mod_cast UInt8.le_iff_toNat_le.1 h
  have hedge : (edge.toNat : Int) ≤ 255 := by have := edge.toNat_lt; omega
  have hrest : (r.reduceDiffuse edge).diffusedLevels edge.toNat = r.diffusedLevels edge.toNat := by
    rw [diffusedLevels, luma_reduceDiffuse]
    refine diffuse_of_settled fun i => ?_
    by_cases hi : i < r.pixels.size
    · obtain ⟨v, hv⟩ := exists_settled hi edge.toNat
      rw [hv, settled_settled hpos hedge]
    · have hout : r.width * r.height ≤ i := by rw [← r.size_eq]; omega
      have hnone : (r.diffusedLevels edge.toNat).getD i 0 = 0 := by
        have hsize : (r.diffusedLevels edge.toNat).size = r.width * r.height :=
          (r.visited_diffuse edge.toNat).size
        simp [Array.getElem?_eq_none (hsize ▸ hout)]
      rw [hnone, settled, if_neg (by omega)]
  rw [reduceDiffuse_eq edge (r.reduceDiffuse edge), hrest, reduceDiffuse_eq, withLevels_withLevels]

theorem prepare_eq (p : Preparation) (r : Raster) : r.prepare p =
    if p.inverse then (r.prepare { p with inverse := false }).map Pixel.inverse
    else r.prepare { p with inverse := false } := by
  unfold prepare
  cases p.inverse <;> rfl

theorem exists_levels {p : Preparation} (h : p.conversion = .monochrome) (r : Raster) :
    ∃ f, r.prepare p = r.withLevels f ∧
      ∀ i < r.pixels.size, ∀ q, f i q = 0 ∨ f i q = 255 := by
  have plain : ∃ f, r.prepare { p with inverse := false } = r.withLevels f ∧
      ∀ i < r.pixels.size, ∀ q, f i q = 0 ∨ f i q = 255 := by
    cases hd : p.dither with
    | edge =>
      exact ⟨_, by simp only [prepare, h, reduceEdge, map_withLevel]; rfl,
        fun i _ q => blackOrWhite_cases _ _⟩
    | ordered =>
      exact ⟨_, by simp only [prepare, h]; rfl, fun i _ q => blackOrWhite_cases _ _⟩
    | diffuse =>
      refine ⟨_, by simp only [prepare, h, reduceDiffuse_eq]; rfl, fun i hi q => ?_⟩
      obtain ⟨v, hv⟩ := exists_settled hi p.edge.toNat
      rw [hv, clampLevel_settled]
      split <;> simp
  obtain ⟨f, hf, hlevel⟩ := plain
  rw [prepare_eq, hf]
  cases p.inverse with
  | false => exact ⟨f, rfl, hlevel⟩
  | true =>
    refine ⟨_, inverse_withLevels f r, fun i hi q => ?_⟩
    rcases hlevel i hi q with hq | hq <;> rw [hq] <;> decide

/-- A second reduction changes nothing, unless colours are complemented or errors are diffused at
the edge zero. A monochrome conversion of any kind makes every pixel black or white, and keeps the
size of the image and the alpha of its pixels. -/
theorem prepare_settles (p : Preparation) (r : Raster) :
    (p.inverse = false → (p.conversion = .monochrome → p.dither = .diffuse → 1 ≤ p.edge) →
      (r.prepare p).prepare p = r.prepare p) ∧
    (p.conversion = .monochrome →
      (r.prepare p).width = r.width ∧ (r.prepare p).height = r.height ∧
      ∀ x < r.width, ∀ y < r.height,
        (r.prepare p).pixel x y = ⟨0, 0, 0, (r.pixel x y).alpha⟩ ∨
          (r.prepare p).pixel x y = ⟨255, 255, 255, (r.pixel x y).alpha⟩) := by
  constructor
  · intro hinverse hedge
    cases hc : p.conversion with
    | color => simp [prepare, hc, hinverse]
    | grayscale => simp [prepare, hc, hinverse, reduceGray_reduceGray]
    | monochrome =>
      cases hd : p.dither with
      | edge => simp [prepare, hc, hd, hinverse, reduceEdge_reduceEdge]
      | ordered => simp [prepare, hc, hd, hinverse, reduceOrdered_reduceOrdered]
      | diffuse => simp [prepare, hc, hd, hinverse, reduceDiffuse_reduceDiffuse (hedge hc hd)]
  · intro hc
    obtain ⟨f, hf, hlevel⟩ := exists_levels hc r
    rw [hf]
    refine ⟨rfl, rfl, fun x hx y hy => ?_⟩
    rw [withLevels, pixel_mapIdx _ hx hy]
    rcases hlevel _ (index_lt hx hy) (r.pixel x y) with hl | hl
    · exact .inl (by rw [hl]; rfl)
    · exact .inr (by rw [hl]; rfl)

def colourPair : Raster := ⟨2, 1, #[⟨200, 30, 90, 7⟩, ⟨3, 1, 2, 0⟩], by decide⟩

theorem prepare_settles_colourPair :
    let p : Preparation := { dither := .diffuse, edge := 1 }
    (p.inverse = false ∧ (p.conversion = .monochrome → p.dither = .diffuse → 1 ≤ p.edge) ∧
      (colourPair.prepare p).prepare p = colourPair.prepare p) ∧
    p.conversion = .monochrome ∧ 1 < colourPair.width ∧ 0 < colourPair.height ∧
      ((colourPair.prepare p).pixel 1 0 = ⟨0, 0, 0, 0⟩ ∨
        (colourPair.prepare p).pixel 1 0 = ⟨255, 255, 255, 0⟩) := by
  intro p
  obtain ⟨hrest, hmono⟩ := prepare_settles p colourPair
  have hedge : p.conversion = .monochrome → p.dither = .diffuse → 1 ≤ p.edge := fun _ _ => by decide
  obtain ⟨-, -, hpixel⟩ := hmono rfl
  exact ⟨⟨rfl, hedge, hrest rfl hedge⟩, rfl, by decide, by decide,
    hpixel 1 (by decide) 0 (by decide)⟩

end Raster

end RasterText
