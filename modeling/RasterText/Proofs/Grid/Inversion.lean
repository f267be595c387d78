import RasterText.Proofs.Grid.Reduction
import RasterText.Proofs.Grid.ScanOrder
set_option autoImplicit false

/-!
Two runs, of which only one complements the colours. Their words differ in the bits of the colours
wherever a pixel stands, and agree in zero behind the ends of the lines. Where one bit of each pixel
is packed, the runs differ in the bits of the pixels and in no other.
-/

namespace RasterText

theorem UInt8.toNat_complement (b : UInt8) : (255 - b).toNat = 2 ^ 8 - (b.toNat + 1) := by
  have hb := b.toNat_lt
  rw [UInt8.toNat_sub_of_le _ _ (UInt8.le_iff_toNat_le.2 (by simp; omega))]
  simp

namespace Pixel

@[simp] theorem inverse_inverse (p : Pixel) : p.inverse.inverse = p := by
  have h (b : UInt8) : 255 - (255 - b) = b := by
    apply UInt8.toNat_inj.1
    have hb := b.toNat_lt
    rw [UInt8.toNat_complement, UInt8.toNat_complement]
    omega
  simp [inverse, h]

theorem testBit_complement (b : UInt8) (i : Nat) :
    (255 - b).toNat.testBit i = (decide (i < 8) && !b.toNat.testBit i) := by
  rw [UInt8.toNat_complement, Nat.testBit_two_pow_sub_succ b.toNat_lt]

theorem word_inverse (p : Pixel) : p.inverse.word = p.word ^^^ 0x00ffffff := by
  have hmask : (0x00ffffff : UInt32) = lowMask 24 := rfl
  refine word_ext fun i hi => ?_
  rw [UInt32.toNat_xor, Nat.testBit_xor, hmask, testBit_lowMask (by decide), testBit_word _ hi,
    testBit_word _ hi]
  simp only [inverse, testBit_complement]
  rcases (by omega : i < 8 ∨ 8 ≤ i ∧ i < 16 ∨ 16 ≤ i ∧ i < 24 ∨ 24 ≤ i) with h | h | h | h
  · simp [h, show i < 24 by omega]
  · simp [h, show ¬i < 8 by omega, show i - 8 < 8 by omega, show i < 24 by omega]
  · simp [h, show ¬i < 8 by omega, show ¬i < 16 by omega, show i - 16 < 8 by omega]
  · simp [show ¬i < 8 by omega, show ¬i < 16 by omega, show ¬i < 24 by omega]

end Pixel

/-- The same preset, but with the colours complemented if they were not, and not if they were. -/
def Preset.opposite (p : Preset) : Preset :=
  { p with prepare := { p.prepare with inverse := !p.prepare.inverse } }

section Runs

variable (p : Preset) (image : Raster)

theorem pixel_prepare_opposite {x y : Nat} (hx : x < image.width) (hy : y < image.height) :
    (image.prepare p.opposite.prepare).pixel x y =
      ((image.prepare p.prepare).pixel x y).inverse := by
  have plain : ({ p.opposite.prepare with inverse := false } : Preparation) =
    { p.prepare with inverse := false } := rfl
  have hinverse : p.opposite.prepare.inverse = !p.prepare.inverse := rfl
  obtain ⟨hw, hh⟩ := prepare_dimensions { p.prepare with inverse := false } image
  rw [Raster.prepare_eq, Raster.prepare_eq p.prepare, plain, hinverse]
  cases p.prepare.inverse with
  | false => exact Raster.pixel_map _ (hw ▸ hx) (hh ▸ hy)
  | true =>
    simp only [Bool.not_true, Bool.false_eq_true, if_false, if_true]
    rw [Raster.pixel_map _ (hw ▸ hx) (hh ▸ hy), Pixel.inverse_inverse]

theorem Preparation.placeOf_prepare (p : Preparation) (r : Raster) (x y : Nat) :
    p.placeOf (r.prepare p) x y = p.placeOf r x y := by
  simp only [placeOf, scanIndex, lineLength_prepare, lineCount_prepare, bandWidthFor_prepare]

theorem getElem?_scan_prepare (p : Preparation) {r : Raster} {x y : Nat} (hx : x < r.width)
    (hy : y < r.height) : ((r.prepare p).scan p).words[p.placeOf r x y]? =
      some ((r.prepare p).pixel x y).word := by
  obtain ⟨hw, hh⟩ := prepare_dimensions p r
  rw [← p.placeOf_prepare r x y]
  exact Preparation.getElem?_placeOf (hw.symm ▸ hx) (hh.symm ▸ hy)

theorem Preparation.length_scanLines_prepare (p : Preparation) (r : Raster) :
    ((r.prepare p).scanLines p).length =
      p.lineCount r * ((p.lineLength r + p.bandWidthFor r - 1) / p.bandWidthFor r) := by
  rw [← p.lineCount_prepare r, ← p.lineLength_prepare r, ← p.bandWidthFor_prepare r]
  exact p.length_scanLines (r.prepare p)

theorem scan_prepare_opposite :
    ((image.prepare p.opposite.prepare).scan p.opposite.prepare).width =
        ((image.prepare p.prepare).scan p.prepare).width ∧
      ((image.prepare p.opposite.prepare).scan p.opposite.prepare).height =
        ((image.prepare p.prepare).scan p.prepare).height ∧
      ((image.prepare p.opposite.prepare).scan p.opposite.prepare).words.length =
        ((image.prepare p.prepare).scan p.prepare).words.length := by
  have hwidth : p.opposite.prepare.bandWidthFor (image.prepare p.opposite.prepare) =
      p.prepare.bandWidthFor (image.prepare p.prepare) := by
    rw [p.opposite.prepare.bandWidthFor_prepare, p.prepare.bandWidthFor_prepare]
    rfl
  have hlines : ((image.prepare p.opposite.prepare).scanLines p.opposite.prepare).length =
      ((image.prepare p.prepare).scanLines p.prepare).length := by
    rw [p.opposite.prepare.length_scanLines_prepare, p.prepare.length_scanLines_prepare]
    rfl
  exact ⟨congrArg UInt32.ofNat hwidth, congrArg UInt32.ofNat hlines,
    by rw [length_scan, length_scan, hwidth, hlines]⟩

theorem getElem?_scan_prepare_of_ne (p : Preparation) {r : Raster} {i : Nat}
    (hi : i < ((r.prepare p).scan p).words.length)
    (h : ∀ x < r.width, ∀ y < r.height, p.placeOf r x y ≠ i) :
    ((r.prepare p).scan p).words[i]? = some 0 := by
  obtain ⟨hw, hh⟩ := prepare_dimensions p r
  refine Preparation.getElem?_scan_of_placeOf_ne hi fun x hx y hy => ?_
  rw [p.placeOf_prepare]
  exact h x (hw ▸ hx) y (hh ▸ hy)

end Runs

/-- The word and the place in it where the lowest bit of sample `i` is packed, if every line of
`width` samples starts a new word. -/
def bitPlace (width : Nat) (block : BlockSize) (i : Nat) : Nat × Nat :=
  (i / width * ((width + block.bits - 1) / block.bits) + i % width / block.bits,
    block.bits - 1 - i % width % block.bits)

theorem bitPlace_eq {width n k : Nat} {block : BlockSize} (hk : k < block.bits)
    (hm : n % ((width + block.bits - 1) / block.bits) * block.bits + (block.bits - 1 - k) < width) :
    bitPlace width block (n / ((width + block.bits - 1) / block.bits) * width +
      (n % ((width + block.bits - 1) / block.bits) * block.bits + (block.bits - 1 - k))) =
        (n, k) := by
  obtain ⟨hmod, hdiv⟩ := (index_eq_iff hm).1 (rfl : n / _ * width + _ = _)
  obtain ⟨hrest, hword⟩ := (index_eq_iff (by omega : block.bits - 1 - k < block.bits)).1
    (rfl : n % _ * block.bits + _ = _)
  rw [bitPlace, hmod, hdiv, hrest, hword]
  exact Prod.ext (Nat.div_add_mod' n _) (by omega)

namespace Grid

variable {g : Grid} {block : BlockSize}

def line (g : Grid) (j : Nat) : List UInt32 :=
  (g.words.drop (j * g.width.toNat)).take g.width.toNat

theorem Whole.getElem?_pack_one (hg : g.Whole) {j c : Nat}
    (hc : c < (g.width.toNat + block.bits - 1) / block.bits)
    (hj : j * g.width.toNat < g.words.length) (hw : 0 < g.width.toNat) :
    (g.pack (lowMask 1) block).words[j * ((g.width.toNat + block.bits - 1) / block.bits) + c]? =
      (packLine (lowMask 1) block (g.line j))[c]? := by
  have hline : ∀ line ∈ cut g.width.toNat g.words, (packLine (lowMask 1) block line).length =
      (g.width.toNat + block.bits - 1) / block.bits := by
    intro line h
    rw [length_packLine, maskBits_lowMask (by decide), hg.length_line h, Nat.mul_one]
  have hget := getElem?_flatMap_of_length hline j hc
  rw [getElem?_cut hw hj, Option.bind_some] at hget
  rw [line, ← hget, List.flatMap_def]
  rfl

theorem Whole.length_pack_one (hg : g.Whole) (block : BlockSize) :
    (g.pack (lowMask 1) block).words.length =
      (g.width.toNat + block.bits - 1) / block.bits * (cut g.width.toNat g.words).length := by
  have hline : ∀ words ∈ g.packedLines (lowMask 1) block,
      words.length = (g.width.toNat + block.bits - 1) / block.bits := by
    intro words h
    rw [hg.length_packedLine h, maskBits_lowMask (by decide), Nat.mul_one]
  have hlen := length_flatten_of_length_eq hline
  rwa [packedLines, List.length_map] at hlen

theorem Whole.map_length_packedLines (hg : g.Whole) (mask : UInt32) (block : BlockSize) :
    (g.packedLines mask block).map List.length =
      List.replicate ((g.words.length + g.width.toNat - 1) / g.width.toNat)
        ((g.width.toNat * maskBits mask + block.bits - 1) / block.bits) := by
  refine List.eq_replicate_iff.2 ⟨?_, fun n hn => ?_⟩
  · rw [List.length_map, packedLines, List.length_map, length_cut]
  · obtain ⟨words, hw, rfl⟩ := List.mem_map.1 hn
    exact hg.length_packedLine hw

theorem Whole.pack_dimensions {h : Grid} (hg : g.Whole) (hh : h.Whole) (hwidth : h.width = g.width)
    (hheight : h.height = g.height) (hlength : h.words.length = g.words.length) (mask : UInt32)
    (block : BlockSize) :
    (h.pack mask block).width = (g.pack mask block).width ∧
      (h.pack mask block).height = (g.pack mask block).height ∧
      (h.pack mask block).words.length = (g.pack mask block).words.length := by
  have hlines : (h.packedLines mask block).map List.length =
      (g.packedLines mask block).map List.length := by
    rw [hh.map_length_packedLines, hg.map_length_packedLines, hwidth, hlength]
  refine ⟨?_, hheight, ?_⟩
  · simp only [Grid.pack, ← List.getLast?_map, hlines]
  · simp only [Grid.pack, List.length_flatten, hlines]

section Places

variable {i n k : Nat} {v w : UInt32}

theorem Whole.width_pos (hg : g.Whole) (hi : i < g.words.length) : 0 < g.width.toNat :=
  Nat.pos_of_dvd_of_pos hg (Nat.zero_lt_of_lt hi)

theorem div_lt_roundUp {m k b : Nat} (hb : 0 < b) (hk : k < m) : k / b < (m + b - 1) / b := by
  have hle := Nat.div_mul_le_self k b
  rw [Nat.lt_iff_add_one_le, Nat.le_div_iff_mul_le hb, Nat.add_one_mul]
  omega

theorem Whole.testBit_bitPlace (hg : g.Whole) (block : BlockSize) (hi : g.words[i]? = some w) :
    ∃ v, (g.pack (lowMask 1) block).words[(bitPlace g.width.toNat block i).1]? = some v ∧
      v.toNat.testBit (bitPlace g.width.toNat block i).2 = w.toNat.testBit 0 := by
  have hlt : i < g.words.length := (List.getElem?_eq_some_iff.1 hi).1
  have hw := hg.width_pos hlt
  have hk := Nat.mod_lt i hw
  have hdm := Nat.div_add_mod' i g.width.toNat
  have hj : i / g.width.toNat * g.width.toNat < g.words.length := by omega
  have hc := div_lt_roundUp block.bits_pos hk
  have hlen : (g.line (i / g.width.toNat)).length = g.width.toNat :=
    hg.length_line (List.mem_of_getElem? (getElem?_cut hw hj))
  have hline : (g.line (i / g.width.toNat))[i % g.width.toNat]? = some w := by
    rw [line, List.getElem?_take, if_pos hk, List.getElem?_drop, hdm, hi]
  obtain ⟨v, hv⟩ : ∃ v, (packLine (lowMask 1) block
      (g.line (i / g.width.toNat)))[i % g.width.toNat / block.bits]? = some v := by
    refine ⟨_, List.getElem?_eq_getElem ?_⟩
    rw [length_packLine, maskBits_lowMask (by decide), Nat.mul_one, hlen]
    exact hc
  have hbit := testBit_packLine_lowMask (by decide) hv
    (Nat.mod_lt (i % g.width.toNat) block.bits_pos) Nat.zero_lt_one (j := i % g.width.toNat)
    (by rw [Nat.div_add_mod', Nat.mul_one, Nat.add_zero])
  rw [hline] at hbit
  exact ⟨v, (hg.getElem?_pack_one hc hj hw).trans hv, hbit⟩

theorem Whole.exists_bitPlace (hg : g.Whole)
    (hv : (g.pack (lowMask 1) block).words[n]? = some v) (hk : v.toNat.testBit k = true) :
    ∃ i w, g.words[i]? = some w ∧ w.toNat.testBit 0 = true ∧
      bitPlace g.width.toNat block i = (n, k) := by
  let size := (g.width.toNat + block.bits - 1) / block.bits
  have hkb : k < block.bits := by
    by_contra hge
    have hclear := testBit_eq_false_of_lt (lt_of_mem_pack (List.mem_of_getElem? hv))
      (Nat.le_of_not_lt hge)
    rw [hk] at hclear
    cases hclear
  have hn : n < size * (cut g.width.toNat g.words).length :=
    hg.length_pack_one block ▸ (List.getElem?_eq_some_iff.1 hv).1
  have hsize : 0 < size := Nat.pos_of_mul_pos_right (Nat.zero_lt_of_lt hn)
  have hw : 0 < g.width.toNat := by
    by_contra h0
    simp [show g.width.toNat = 0 by omega, cut] at hn
  have hj : n / size * g.width.toNat < g.words.length :=
    mul_lt_of_lt_length_cut (Nat.div_lt_of_lt_mul hn)
  have hc := Nat.mod_lt n hsize
  have hget := hg.getElem?_pack_one hc hj hw
  rw [Nat.div_add_mod', hv] at hget
  have hback : block.bits - 1 - (block.bits - 1 - k) = k := by omega
  have hbit := testBit_packLine_lowMask (by decide) hget.symm
    (by omega : block.bits - 1 - k < block.bits) Nat.zero_lt_one
    (j := n % size * block.bits + (block.bits - 1 - k)) (by rw [Nat.mul_one, Nat.add_zero])
  rw [hback, hk, line, List.getElem?_take] at hbit
  split at hbit
  case isFalse => cases hbit
  case isTrue hm =>
    rw [List.getElem?_drop] at hbit
    cases hs : g.words[n / size * g.width.toNat +
        (n % size * block.bits + (block.bits - 1 - k))]? with
    | none =>
      rw [hs] at hbit
      cases hbit
    | some w =>
      rw [hs] at hbit
      exact ⟨_, w, hs, hbit.symm, bitPlace_eq hkb hm⟩

end Places

end Grid

namespace Preset

/-- The place of the bit that stands for a pixel, if one bit of each is packed. -/
def pixelBit (p : Preset) (image : Raster) (x y : Nat) : Nat × Nat :=
  bitPlace (p.prepare.bandWidthFor image) p.layout.blockSize (p.prepare.placeOf image x y)

variable {p : Preset} {image : Raster}

theorem testBit_zero_apply (w : UInt32) :
    (({} : Matrix).apply w).toNat.testBit 0 = w.toNat.testBit 0 := by
  have happly : (({} : Matrix).apply w).toNat = w.toNat % 2 := toNat_apply_monochrome w
  rw [happly, Nat.testBit_zero, Nat.testBit_zero, Nat.mod_mod]

theorem exists_pixelBit (hm : p.matrix = {}) {x y : Nat} (hx : x < image.width)
    (hy : y < image.height) :
    ∃ v, ((p.samples image).pack p.matrix.used p.layout.blockSize).words[
        (p.pixelBit image x y).1]? = some v ∧
      v.toNat.testBit (p.pixelBit image x y).2 =
        ((image.prepare p.prepare).pixel x y).word.toNat.testBit 0 := by
  have hused : p.matrix.used = lowMask 1 := by rw [hm]; rfl
  have hsample : (p.samples image).words[p.prepare.placeOf image x y]? =
      some (p.matrix.apply ((image.prepare p.prepare).pixel x y).word) := by
    rw [samples, Grid.process, List.getElem?_map, getElem?_scan_prepare p.prepare hx hy,
      Option.map_some]
  obtain ⟨v, hv, hbit⟩ := (p.whole_samples image).testBit_bitPlace p.layout.blockSize hsample
  rw [hm, testBit_zero_apply] at hbit
  rw [pixelBit, hused, ← p.toNat_width_samples image]
  exact ⟨v, hv, hbit⟩

theorem testBit_eq_false_of_ne_pixelBit (hm : p.matrix = {}) {n k : Nat} {v : UInt32}
    (hv : ((p.samples image).pack p.matrix.used p.layout.blockSize).words[n]? = some v)
    (h : ∀ x < image.width, ∀ y < image.height, p.pixelBit image x y ≠ (n, k)) :
    v.toNat.testBit k = false := by
  have hused : p.matrix.used = lowMask 1 := by rw [hm]; rfl
  rw [hused] at hv
  by_contra hk
  obtain ⟨i, w, hi, hset, hplace⟩ := (p.whole_samples image).exists_bitPlace hv (by simpa using hk)
  rw [p.toNat_width_samples image] at hplace
  have hlt : i < ((image.prepare p.prepare).scan p.prepare).words.length := by
    simpa [samples, Grid.process] using (List.getElem?_eq_some_iff.1 hi).1
  have hzero := getElem?_scan_prepare_of_ne p.prepare hlt fun x hx y hy he =>
    h x hx y hy (by rw [pixelBit, he, hplace])
  rw [samples, Grid.process, List.getElem?_map, hzero, Option.map_some, Option.some.injEq] at hi
  rw [← hi, hm, testBit_zero_apply] at hset
  cases hset

end Preset

/-- Complementing changes the colours of the pixels and nothing else: their words differ in the bits
of the colours, and the places without a pixel are zero. If the lowest bit is packed, the bits of
the pixels are complemented, and all others are zero. -/
theorem opposite_complements (p : Preset) (image : Raster) :
    let before := (image.prepare p.prepare).scan p.prepare
    let after := (image.prepare p.opposite.prepare).scan p.opposite.prepare
    (after.width = before.width ∧ after.height = before.height ∧
      after.words.length = before.words.length) ∧
    (∀ x < image.width, ∀ y < image.height, ∃ w,
      before.words[p.prepare.placeOf image x y]? = some w ∧
        after.words[p.prepare.placeOf image x y]? = some (w ^^^ 0x00ffffff)) ∧
    (∀ i < before.words.length,
      (∀ x < image.width, ∀ y < image.height, p.prepare.placeOf image x y ≠ i) →
        before.words[i]? = some 0 ∧ after.words[i]? = some 0) ∧
    (p.matrix = {} → ∃ packed packed',
      Pipeline.standard.pack p (p.samples image) = .ok packed ∧
      Pipeline.standard.pack p.opposite (p.opposite.samples image) = .ok packed' ∧
      (packed'.width = packed.width ∧ packed'.height = packed.height ∧
        packed'.words.length = packed.words.length) ∧
      (∀ x < image.width, ∀ y < image.height, ∃ v v',
        packed.words[(p.pixelBit image x y).1]? = some v ∧
        packed'.words[(p.pixelBit image x y).1]? = some v' ∧
        v'.toNat.testBit (p.pixelBit image x y).2 = !v.toNat.testBit (p.pixelBit image x y).2) ∧
      ∀ n k, (∀ x < image.width, ∀ y < image.height, p.pixelBit image x y ≠ (n, k)) →
        ∀ v, packed.words[n]? = some v ∨ packed'.words[n]? = some v →
          v.toNat.testBit k = false) := by
  intro before after
  obtain ⟨hwidth, hheight, hlength⟩ : after.width = before.width ∧ after.height = before.height ∧
    after.words.length = before.words.length := scan_prepare_opposite p image
  have hplace (x y : Nat) :
      p.opposite.prepare.placeOf image x y = p.prepare.placeOf image x y := rfl
  have hbit (x y : Nat) : p.opposite.pixelBit image x y = p.pixelBit image x y := rfl
  refine ⟨⟨hwidth, hheight, hlength⟩, fun x hx y hy => ?_, fun i hi h => ⟨?_, ?_⟩, fun hm => ?_⟩
  · refine ⟨_, getElem?_scan_prepare p.prepare hx hy, ?_⟩
    rw [← Pixel.word_inverse, ← pixel_prepare_opposite p image hx hy, ← hplace]
    exact getElem?_scan_prepare p.opposite.prepare hx hy
  · exact getElem?_scan_prepare_of_ne p.prepare hi h
  · exact getElem?_scan_prepare_of_ne p.opposite.prepare (hlength.symm ▸ hi) h
  · have hm' : p.opposite.matrix = {} := hm
    have hused : p.matrix.used ≠ 0 := by rw [hm]; decide
    refine ⟨_, _, if_neg hused, if_neg hused,
      (p.whole_samples image).pack_dimensions (p.opposite.whole_samples image) hwidth hheight
        (by simpa [Preset.samples, Grid.process] using hlength) _ _,
      fun x hx y hy => ?_, fun n k h v hv => ?_⟩
    · obtain ⟨v, hv, hset⟩ := Preset.exists_pixelBit hm hx hy
      obtain ⟨v', hv', hset'⟩ := Preset.exists_pixelBit hm' hx hy
      rw [hbit] at hv' hset'
      refine ⟨v, v', hv, hv', ?_⟩
      have hlow : (0x00ffffff : UInt32).toNat.testBit 0 = true := by decide
      rw [hset', pixel_prepare_opposite p image hx hy, Pixel.word_inverse, UInt32.toNat_xor,
        Nat.testBit_xor, hlow, Bool.xor_true, hset]
    · rcases hv with hv | hv
      · exact Preset.testBit_eq_false_of_ne_pixelBit hm hv h
      · exact Preset.testBit_eq_false_of_ne_pixelBit hm' hv h

theorem opposite_complements_stripes :
    let p : Preset := { prepare := upwardBands }
    let before := (stripes.prepare p.prepare).scan p.prepare
    let after := (stripes.prepare p.opposite.prepare).scan p.opposite.prepare
    (1 < stripes.width ∧ 0 < stripes.height ∧ ∃ w,
      before.words[7]? = some w ∧ after.words[7]? = some (w ^^^ 0x00ffffff)) ∧
    (8 < before.words.length ∧
      (∀ x < stripes.width, ∀ y < stripes.height, p.prepare.placeOf stripes x y ≠ 8) ∧
      before.words[8]? = some 0 ∧ after.words[8]? = some 0) ∧
    p.matrix = {} ∧ ∃ packed packed',
      Pipeline.standard.pack p (p.samples stripes) = .ok packed ∧
      Pipeline.standard.pack p.opposite (p.opposite.samples stripes) = .ok packed' ∧
      (∃ v v', packed.words[2]? = some v ∧ packed'.words[2]? = some v' ∧
        v'.toNat.testBit 6 = !v.toNat.testBit 6) ∧
      (∀ x < stripes.width, ∀ y < stripes.height, p.pixelBit stripes x y ≠ (2, 5)) ∧
      ∀ v, packed.words[2]? = some v ∨ packed'.words[2]? = some v → v.toNat.testBit 5 = false := by
  intro p before after
  obtain ⟨-, hpixel, hzero, hpacked⟩ := opposite_complements p stripes
  have h8 : 8 < before.words.length := by
    rw [length_scan, p.prepare.length_scanLines_prepare]
    decide
  have hne : ∀ x < stripes.width, ∀ y < stripes.height, p.prepare.placeOf stripes x y ≠ 8 := by
    decide
  have hbit : ∀ x < stripes.width, ∀ y < stripes.height, p.pixelBit stripes x y ≠ (2, 5) := by
    decide
  have hplace : p.prepare.placeOf stripes 1 0 = 7 := by decide
  have hpixelBit : p.pixelBit stripes 1 0 = (2, 6) := by decide
  obtain ⟨packed, packed', hp, hp', -, hflip, hclear⟩ := hpacked rfl
  replace hpixel := hpixel 1 (by decide) 0 (by decide)
  replace hflip := hflip 1 (by decide) 0 (by decide)
  rw [hplace] at hpixel
  rw [hpixelBit] at hflip
  exact ⟨⟨by decide, by decide, hpixel⟩, ⟨h8, hne, hzero 8 h8 hne⟩, rfl,
    packed, packed', hp, hp', hflip, hbit, hclear 2 5 hbit⟩

end RasterText
