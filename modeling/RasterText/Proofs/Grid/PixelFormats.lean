import RasterText.Preset.Loading
import RasterText.Proofs.Grid.PackedBits
import RasterText.Proofs.Grid.Rows
import RasterText.Proofs.Grid.Samples
set_option autoImplicit false

namespace RasterText

namespace Preset

theorem lineWords_nil (p : Preset) : p.lineWords [] = [] := by simp [lineWords, packLine]

theorem words_of_whole {p : Preset} (hp : p.prepare.RowByRow)
    (hu : p.matrix.used = lowMask p.layout.blockSize.bits)
    (hs : ∀ v, (p.matrix.apply v).toNat < 2 ^ p.layout.blockSize.bits) (image : Raster) :
    (p.orderedWords image).words = (image.prepare p.prepare).pixels.toList.map fun px =>
      (p.wordCode 0).restoreBytes (p.matrix.apply px.word) := by
  obtain ⟨hw, hh⟩ := prepare_dimensions p.prepare image
  have hline (line : List UInt32) :
      p.lineWords line = line.map fun v => (p.wordCode 0).restoreBytes (p.matrix.apply v) := by
    rw [lineWords, hu, packLine_eq_self, List.map_map]
    · rfl
    · intro w hw
      obtain ⟨v, -, rfl⟩ := List.mem_map.1 hw
      exact hs v
  rw [words_orderedWords, flatMap_lines hp image p.lineWords_nil, ← Raster.flatMap_pixel,
    hw, hh]
  exact List.flatMap_congr fun y _ => by rw [hline, List.map_map]; rfl

theorem restoreBytes_bits8 {k : WordCode} (hk : k.block = .bits8) {w : UInt32}
    (h : w.toNat < 2 ^ 8) : k.restoreBytes w = w := by
  unfold WordCode.restoreBytes
  split
  · rfl
  · rw [hk]
    exact reverseBytes_bits8 h

theorem words_of_bytes {p : Preset} (hp : p.prepare.RowByRow) (hb : p.layout.blockSize = .bits8)
    (image : Raster) :
    (p.orderedWords image).words = (List.range image.height).flatMap fun y =>
      packLine p.matrix.used .bits8 ((List.range image.width).map fun x =>
        p.matrix.apply ((image.prepare p.prepare).pixel x y).word) := by
  have hline (line : List UInt32) :
      p.lineWords line = packLine p.matrix.used .bits8 (line.map p.matrix.apply) := by
    have hr : ∀ w ∈ packLine p.matrix.used .bits8 (line.map p.matrix.apply),
        (p.wordCode line.length).restoreBytes w = w := by
      intro w h
      have hw := lt_of_mem_packLine h
      exact restoreBytes_bits8 hb hw
    rw [lineWords, hb, List.map_congr_left hr, List.map_id']
  rw [words_orderedWords, flatMap_lines hp image p.lineWords_nil]
  exact List.flatMap_congr fun y _ => by rw [hline, List.map_map]; rfl

end Preset

section Bytes

variable {width n : Nat} {sample : Nat → UInt32} {i : Nat} {w : UInt32}

theorem length_packedSamples (hn : n ≤ 32) :
    (packLine (lowMask n) .bits8 ((List.range width).map sample)).length =
      (width * n + 7) / 8 := by
  rw [length_packLine, maskBits_lowMask hn, List.length_map, List.length_range]
  rfl

theorem lt_of_packedSample
    (h : (packLine (lowMask n) .bits8 ((List.range width).map sample))[i]? = some w) :
    w.toNat < 2 ^ 8 := by
  have hb : BlockSize.bits8.bits = 8 := rfl
  have hw := lt_of_mem_packLine (List.mem_of_getElem? h)
  rwa [hb] at hw

theorem testBit_packedSample (hn : n ≤ 32)
    (h : (packLine (lowMask n) .bits8 ((List.range width).map sample))[i]? = some w) {k j r : Nat}
    (hk : k < 8) (hr : r < n) (hplace : i * 8 + k = j * n + r) :
    w.toNat.testBit (7 - k) = (decide (j < width) && (sample j).toNat.testBit (n - 1 - r)) := by
  have hb : BlockSize.bits8.bits = 8 := rfl
  have ht := testBit_packLine_lowMask hn h (hb ▸ hk) hr (hb ▸ hplace)
  rw [hb, List.getElem?_map, Option.map_map] at ht
  rw [ht]
  by_cases hj : j < width <;> simp [hj]

theorem toNat_packedPair {f : Nat → Nat} (hlt : ∀ j, f j < 2 ^ 4)
    (hf : ∀ j, f j = if j < width then (sample j).toNat else 0)
    (h : (packLine (lowMask 4) .bits8 ((List.range width).map sample))[i]? = some w) :
    w.toNat = 2 ^ 4 * f (2 * i) + f (2 * i + 1) := by
  have hbit (j t : Nat) :
      (f j).testBit t = (decide (j < width) && (sample j).toNat.testBit t) := by
    rw [hf]
    by_cases hj : j < width <;> simp [hj]
  apply Nat.eq_of_testBit_eq
  intro t
  rw [Nat.testBit_two_pow_mul_add _ (hlt _)]
  -- the low half of the byte, its high half, and the places above it
  rcases (by omega : t < 4 ∨ 4 ≤ t ∧ t < 8 ∨ 8 ≤ t) with ht | ht | ht
  · have hs := testBit_packedSample (j := 2 * i + 1) (r := 3 - t) (by omega) h
      (by omega : 7 - t < 8) (by omega) (by omega)
    rw [show 7 - (7 - t) = t by omega, show 4 - 1 - (3 - t) = t by omega] at hs
    rw [hs, if_pos ht, hbit]
  · have hs := testBit_packedSample (j := 2 * i) (r := 7 - t) (by omega) h
      (by omega : 7 - t < 8) (by omega) (by omega)
    rw [show 7 - (7 - t) = t by omega, show 4 - 1 - (7 - t) = t - 4 by omega] at hs
    rw [hs, if_neg (by omega), hbit]
  · have hhigh := Nat.testBit_lt_two_pow (Nat.lt_of_lt_of_le (hlt (2 * i))
      (Nat.pow_le_pow_right (by omega) (by omega : 4 ≤ t - 4)))
    rw [testBit_eq_false_of_lt (lt_of_packedSample h) ht, if_neg (by omega), hhigh]

end Bytes

namespace Preset

structure Plain (p : Preset) : Prop where
  named : builtin p.name = .ok p
  rows : p.prepare.RowByRow
  kept : p.matrix.used ≠ 0
  uncoded : p.layout.runLength = false

theorem plain_of_mem {p : Preset} (h : p ∈ builtins) : p.Plain := by
  simp only [builtins, List.mem_cons, List.not_mem_nil, or_false] at h
  rcases h with rfl | rfl | rfl | rfl | rfl <;> exact ⟨rfl, ⟨rfl, rfl, rfl⟩, by decide, rfl⟩

end Preset

/-- What a built-in preset makes of an image, as a statement on the numbers of its words. -/
def Emits (name : Text) (image : Raster) (holds : List Nat → Prop) : Prop :=
  ∃ p g, Preset.builtin name = .ok p ∧ Pipeline.standard.convert p image = .ok g ∧
    holds (g.words.map UInt32.toNat)

/-- Numbers in as many rows as the image has, `count` in each row, and each as told for its row and
its place. -/
def Raster.InRows (r : Raster) (count : Nat) (holds : Nat → Nat → Nat → Prop)
    (values : List Nat) : Prop :=
  ∃ rows : List (List Nat), rows.flatten = values ∧ rows.length = r.height ∧
    ∀ y row, rows[y]? = some row → row.length = count ∧ ∀ i v, row[i]? = some v → holds y i v

section

variable {p : Preset} (hp : p ∈ Preset.builtins) {image : Raster}
include hp

theorem emits_of_words {holds : List Nat → Prop}
    (h : holds ((p.orderedWords image).words.map UInt32.toNat)) : Emits p.name image holds := by
  have hplain := Preset.plain_of_mem hp
  refine ⟨p, p.orderedWords image, hplain.named, ?_, h⟩
  rw [convert_standard hplain.kept, hplain.uncoded]
  rfl

theorem emits_of_whole {f : Pixel → Nat} (hu : p.matrix.used = lowMask p.layout.blockSize.bits)
    (hs : ∀ v, (p.matrix.apply v).toNat < 2 ^ p.layout.blockSize.bits)
    (hf : (image.prepare p.prepare).pixels.toList.map (fun px =>
      ((p.wordCode 0).restoreBytes (p.matrix.apply px.word)).toNat) = image.pixels.toList.map f) :
    Emits p.name image fun words => words.length = image.width * image.height ∧
      words = image.pixels.toList.map f := by
  have he : (p.orderedWords image).words.map UInt32.toNat = image.pixels.toList.map f := by
    rw [Preset.words_of_whole (Preset.plain_of_mem hp).rows hu hs, List.map_map, ← hf]
    rfl
  refine emits_of_words hp ?_
  rw [he]
  exact ⟨by rw [List.length_map, Array.length_toList, image.size_eq], rfl⟩

theorem emits_of_bytes {n count : Nat} {holds : Nat → Nat → Nat → Prop}
    (hb : p.layout.blockSize = .bits8) (hn : n ≤ 32) (hu : p.matrix.used = lowMask n)
    (hc : (image.width * n + 7) / 8 = count)
    (h : ∀ y < image.height, ∀ i w, (packLine (lowMask n) .bits8 ((List.range image.width).map
      fun x => p.matrix.apply ((image.prepare p.prepare).pixel x y).word))[i]? = some w →
        holds y i w.toNat) :
    Emits p.name image (image.InRows count holds) := by
  refine emits_of_words hp ⟨(List.range image.height).map fun y =>
    (packLine (lowMask n) .bits8 ((List.range image.width).map fun x =>
      p.matrix.apply ((image.prepare p.prepare).pixel x y).word)).map UInt32.toNat, ?_, ?_, ?_⟩
  · rw [Preset.words_of_bytes (Preset.plain_of_mem hp).rows hb, hu, List.map_flatMap,
      List.flatMap_def]
  · rw [List.length_map, List.length_range]
  · intro y row hrow
    obtain ⟨hy, rfl⟩ := List.getElem?_eq_some_iff.1 hrow
    rw [List.length_map, List.length_range] at hy
    rw [List.getElem_map, List.getElem_range]
    refine ⟨by rw [List.length_map, length_packedSamples hn, hc], fun i v hv => ?_⟩
    rw [List.getElem?_map, Option.map_eq_some_iff] at hv
    obtain ⟨w, hw, rfl⟩ := hv
    exact h y hy i w hw

end

theorem emits_colorR8G8B8 (image : Raster) :
    Emits "color_r8g8b8".toList image fun words => words.length = image.width * image.height ∧
      words = image.pixels.toList.map Pixel.blueGreenRed := by
  have hmem : Preset.colorR8G8B8 ∈ Preset.builtins := by simp [Preset.builtins]
  refine emits_of_whole hmem rfl (fun v => ?_) ?_
  · rw [Preset.toNat_apply_colorR8G8B8]
    exact Nat.mod_lt _ (by decide)
  · exact List.map_congr_left fun px _ => Preset.toNat_blueGreenRed px

theorem emits_colorR5G6B5 (image : Raster) :
    Emits "color_r5g6b5".toList image fun words => words.length = image.width * image.height ∧
      words = image.pixels.toList.map fun px => swapPair px.highColor := by
  have hmem : Preset.colorR5G6B5 ∈ Preset.builtins := by simp [Preset.builtins]
  refine emits_of_whole hmem rfl Preset.apply_colorR5G6B5_lt ?_
  refine List.map_congr_left fun px _ => ?_
  rw [← Preset.toNat_apply_colorR5G6B5]
  exact toNat_reverseBytes_bits16 (Preset.apply_colorR5G6B5_lt _)

example : swapPair (Pixel.highColor ⟨255, 0, 0, 255⟩) = 0x00f8 := by decide

theorem emits_grayscale8 (image : Raster) :
    Emits "grayscale_8".toList image fun words => words.length = image.width * image.height ∧
      words = image.pixels.toList.map Pixel.luma := by
  have hmem : Preset.grayscale8 ∈ Preset.builtins := by simp [Preset.builtins]
  have hlt (v : UInt32) : (Preset.grayscale8.matrix.apply v).toNat < 2 ^ 8 := by
    rw [Preset.toNat_apply_grayscale8]
    exact Nat.mod_lt _ (by decide)
  have hgray : (image.prepare Preset.grayscale8.prepare).pixels.toList =
      image.pixels.toList.map fun px => px.withLevel (UInt8.ofNat px.luma) := by
    have hr : image.prepare Preset.grayscale8.prepare = image.reduceGray := rfl
    rw [hr, Raster.reduceGray, Raster.map, Array.toList_map]
  refine emits_of_whole hmem rfl hlt ?_
  rw [hgray, List.map_map]
  refine List.map_congr_left fun px _ => ?_
  rw [Function.comp_apply, Preset.restoreBytes_bits8 rfl (hlt _), Preset.toNat_apply_grayscale8,
    Pixel.toNat_gray]

def Raster.nibble (r : Raster) (y x : Nat) : Nat :=
  if x < r.width then (r.pixel x y).luma / 16 else 0

theorem emits_grayscale4 (image : Raster) :
    Emits "grayscale_4".toList image (image.InRows ((image.width + 1) / 2) fun y i byte =>
      byte = 16 * image.nibble y (2 * i) + image.nibble y (2 * i + 1)) := by
  have hmem : Preset.grayscale4 ∈ Preset.builtins := by simp [Preset.builtins]
  refine emits_of_bytes (n := 4) hmem rfl (by omega) rfl (by omega) ?_
  intro y hy i w hw
  refine toNat_packedPair (fun x => ?_) (fun x => ?_) hw
  · have hl := (image.pixel x y).luma_lt
    unfold Raster.nibble
    split <;> omega
  · unfold Raster.nibble
    by_cases hx : x < image.width
    · have hr : image.prepare Preset.grayscale4.prepare = image.reduceGray := rfl
      have hg := (image.pixel x y).toNat_gray
      rw [if_pos hx, if_pos hx, hr, Raster.reduceGray, Raster.pixel_map _ hx hy,
        Preset.toNat_apply_grayscale4]
      omega
    · rw [if_neg hx, if_neg hx]

theorem emits_monochrome (image : Raster) :
    Emits "monochrome".toList image (image.InRows ((image.width + 7) / 8) fun y i byte =>
      byte < 256 ∧ ∀ k < 8, byte.testBit (7 - k) =
        decide (8 * i + k < image.width ∧ 128 ≤ (image.pixel (8 * i + k) y).luma)) := by
  have hmem : Preset.monochrome ∈ Preset.builtins := by simp [Preset.builtins]
  refine emits_of_bytes (n := 1) hmem rfl (by omega) rfl (by omega) ?_
  intro y hy i w hw
  refine ⟨lt_of_packedSample hw, fun k hk => ?_⟩
  rw [testBit_packedSample (j := 8 * i + k) (r := 0) (by omega) hw hk (by omega) (by omega)]
  by_cases hx : 8 * i + k < image.width
  · have hr : image.prepare Preset.monochrome.prepare = image.reduceEdge 128 := rfl
    have he : (128 : UInt8).toNat = 128 := rfl
    rw [hr, Raster.reduceEdge, Raster.pixel_map _ hx hy, Preset.toNat_apply_monochrome, he,
      Pixel.toNat_blackOrWhite]
    by_cases hl : 128 ≤ (image.pixel (8 * i + k) y).luma
    · simp [hx, hl]
    · simp [hl]
  · simp [hx]

end RasterText
