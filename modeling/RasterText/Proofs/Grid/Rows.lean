import RasterText.Proofs.Grid.Shape
set_option autoImplicit false

namespace RasterText

theorem cut_self {α : Type} {n : Nat} (hn : 0 < n) {l : List α} (h : l.length = n) :
    cut n l = [l] := by
  have hc := cut_append hn [] h
  rwa [List.append_nil, cut_nil] at hc

theorem range_mul (h w : Nat) :
    List.range (h * w) = (List.range h).flatMap fun y => (List.range w).map fun x => y * w + x := by
  induction h with
  | zero => simp
  | succ h ih =>
    rw [Nat.succ_mul, List.range_add, ih, List.range_succ, List.flatMap_append]
    simp

namespace Raster

variable {r : Raster} {x y : Nat}

theorem index_lt (hx : x < r.width) (hy : y < r.height) : y * r.width + x < r.pixels.size := by
  rw [r.size_eq]
  calc
    y * r.width + x < y * r.width + r.width := by omega
    _ = (y + 1) * r.width := (Nat.succ_mul y r.width).symm
    _ ≤ r.height * r.width := Nat.mul_le_mul_right _ hy
    _ = r.width * r.height := Nat.mul_comm _ _

theorem pixel_map (f : Pixel → Pixel) (hx : x < r.width) (hy : y < r.height) :
    (r.map f).pixel x y = f (r.pixel x y) := by
  have hi := index_lt hx hy
  simp [pixel, map, hi]

theorem pixel_mapIdx (f : Nat → Pixel → Pixel) (hx : x < r.width) (hy : y < r.height) :
    (r.mapIdx f).pixel x y = f (y * r.width + x) (r.pixel x y) := by
  have hi := index_lt hx hy
  simp [pixel, mapIdx, hi]

theorem flatMap_pixel {β : Type} (r : Raster) (g : Pixel → β) :
    ((List.range r.height).flatMap fun y => (List.range r.width).map fun x => g (r.pixel x y)) =
      r.pixels.toList.map g := by
  have hp : r.pixels.toList =
      (List.range (r.height * r.width)).map fun i => r.pixels.getD i default := by
    apply List.ext_getElem
    · simp [r.size_eq, Nat.mul_comm]
    · intro i h1 h2
      have hi : i < r.pixels.size := by simpa using h1
      simp [hi]
  rw [hp, range_mul, List.map_map, List.map_flatMap]
  exact List.flatMap_congr fun y _ => by rw [List.map_map]; rfl

end Raster

/-- Rows from the top, pixels from the left, and no bands. -/
structure Preparation.RowByRow (p : Preparation) : Prop where
  main : p.scanMain = .topToBottom
  sub : p.scanSub = .forward
  bands : p.banded = false

theorem Preset.flatMap_lines {p : Preset} (hp : p.prepare.RowByRow) (image : Raster) {β : Type}
    {f : List UInt32 → List β} (hf : f [] = []) :
    (p.lines image).flatMap f = (List.range image.height).flatMap fun y =>
      f ((List.range image.width).map fun x => ((image.prepare p.prepare).pixel x y).word) := by
  have hl : p.prepare.lineLength image = image.width := by
    simp [Preparation.lineLength, hp.main, ScanDirection.isVertical]
  have hc : p.prepare.lineCount image = image.height := by
    simp [Preparation.lineCount, hp.main, ScanDirection.isVertical]
  have hb : p.prepare.bandWidthFor image = image.width := by
    simp [Preparation.bandWidthFor, hp.bands, hl]
  rw [lines, Raster.scanLines, p.prepare.bandWidthFor_prepare, p.prepare.lineLength_prepare,
    p.prepare.lineCount_prepare, hb, hl, hc]
  rcases Nat.eq_zero_or_pos image.width with h0 | h0
  · -- there are no lines, and the rows are empty
    simp [h0, cut, hf]
  · have hs : cut image.width (places (p.prepare.scanSub == .backward) image.width) =
        [List.range image.width] := by
      rw [hp.sub]
      exact cut_self h0 (by simp [places])
    rw [hs, hp.main]
    simp [places, ScanDirection.isReversed, Preparation.bandLine, p.prepare.bandWidthFor_prepare,
      hb, Preparation.pixelAt, hp.main, ScanDirection.isVertical, List.flatMap_map]

end RasterText
