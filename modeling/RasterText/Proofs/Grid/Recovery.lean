import RasterText.Grid.Pipeline
import RasterText.Proofs.Grid.Packing
import RasterText.Proofs.Grid.RunLength
set_option autoImplicit false

/-!
The words of an image are read back stage by stage: packets, byte order, lines, bits. A reader needs
the width of a line, the mask, and the layout of the words, and finds every selected bit in its
place.
-/

namespace RasterText

/-- What a reader has to know of the words of an image. -/
structure WordCode where
  width : Nat
  mask : UInt32
  block : BlockSize
  order : ByteOrder
  runLength : Bool
  deriving DecidableEq, Repr

def placeBits : List Nat → List Bool → UInt32
  | place :: places, bit :: bits =>
    (if bit then 1 <<< UInt32.ofNat place else 0) ||| placeBits places bits
  | _, _ => 0

namespace WordCode

def wordsPerLine (k : WordCode) : Nat :=
  (k.width * maskBits k.mask + k.block.bits - 1) / k.block.bits

def restoreBytes (k : WordCode) (w : UInt32) : UInt32 :=
  match k.order with
  | .bigEndian => w
  | .littleEndian => k.block.reverseBytes w

/-- The samples of one line. There are none if bits are missing, or if anything but zeros stands
behind the last sample. -/
def unpackLine? (k : WordCode) (words : List UInt32) : Option (List UInt32) :=
  let bits := words.flatMap (wordBits k.block.bits)
  let used := k.width * maskBits k.mask
  if used ≤ bits.length ∧ (bits.drop used).all (! ·) then
    some ((cut (maskBits k.mask) (bits.take used)).map (placeBits (selectedBits k.mask)))
  else none

def expand? (k : WordCode) (words : List UInt32) : Option (List UInt32) :=
  if k.runLength then expandWords? words else some words

def unpack? (k : WordCode) (words : List UInt32) : Option (List UInt32) :=
  ((cut k.wordsPerLine words).mapM k.unpackLine?).map List.flatten

def decode? (k : WordCode) (words : List UInt32) : Option (List UInt32) :=
  (k.expand? words).bind fun plain => k.unpack? (plain.map k.restoreBytes)

end WordCode

def Preset.samples (p : Preset) (image : Raster) : Grid :=
  ((image.prepare p.prepare).scan p.prepare).process p.matrix

/-- The code of the words of an image whose scan lines have `width` samples. -/
def Preset.wordCode (p : Preset) (width : Nat) : WordCode where
  width := width
  mask := p.matrix.used
  block := p.layout.blockSize
  order := p.layout.byteOrder
  runLength := p.layout.runLength

theorem testBit_one_shiftLeft {k : Nat} (hk : k < 32) (i : Nat) :
    ((1 : UInt32) <<< UInt32.ofNat k).toNat.testBit i = decide (k = i) := by
  have hp : 2 ^ k < 2 ^ 32 := Nat.pow_lt_pow_right (by omega) hk
  rw [UInt32.toNat_shiftLeft, toNat_ofNat_mod hk, UInt32.toNat_one, Nat.shiftLeft_eq,
    Nat.one_mul, Nat.mod_eq_of_lt hp, Nat.testBit_two_pow]

theorem testBit_placeBits {places : List Nat} (h : ∀ k ∈ places, k < 32) (w : UInt32) (i : Nat) :
    (placeBits places (bitsAt places w)).toNat.testBit i =
      (decide (i ∈ places) && w.toNat.testBit i) := by
  induction places with
  | nil => simp [placeBits]
  | cons k places ih =>
    have ho := testBit_one_shiftLeft (h k (by simp)) i
    have hp := ih fun j hj => h j (by simp [hj])
    have hb : placeBits (k :: places) (bitsAt (k :: places) w) =
        (if w.toNat.testBit k then 1 <<< UInt32.ofNat k else 0) |||
          placeBits places (bitsAt places w) := rfl
    rw [hb, UInt32.toNat_or, Nat.testBit_or, hp]
    by_cases hw : w.toNat.testBit k = true
    · rw [if_pos hw, ho]
      by_cases hik : k = i
      · simp [← hik, hw]
      · simp [hik, Ne.symm hik]
    · rw [if_neg hw]
      by_cases hik : k = i
      · subst hik
        simp [hw]
      · simp [Ne.symm hik]

theorem placeBits_bitsAt (mask w : UInt32) :
    placeBits (selectedBits mask) (bitsAt (selectedBits mask) w) = w &&& mask := by
  apply word_ext
  intro i hi
  rw [testBit_placeBits (fun k hk => (mem_selectedBits.1 hk).1), UInt32.toNat_and,
    Nat.testBit_and, Bool.and_comm]
  by_cases hm : mask.toNat.testBit i <;> simp [mem_selectedBits, hi, hm]

theorem unpackLine?_packLine {k : WordCode} (hm : k.mask ≠ 0) {line : List UInt32}
    (h : line.length = k.width) :
    k.unpackLine? (packLine k.mask k.block line) = some (line.map (· &&& k.mask)) := by
  have hb := bits_packLine k.mask k.block line
  have hl := length_lineBits k.mask line
  rw [h] at hl
  have hc : cut (maskBits k.mask) (lineBits k.mask line) =
      line.map (bitsAt (selectedBits k.mask)) := by
    rw [lineBits, List.flatMap_def]
    apply cut_flatten (maskBits_pos hm)
    intro bits hbits
    obtain ⟨w, -, rfl⟩ := List.mem_map.1 hbits
    exact length_bitsAt k.mask w
  rw [WordCode.unpackLine?, hb, List.take_left' hl, List.drop_left' hl, hc, List.map_map]
  rw [if_pos ⟨by rw [List.length_append, hl]; omega, by simp⟩]
  simp only [Option.some.injEq]
  exact List.map_congr_left fun w _ => placeBits_bitsAt k.mask w

theorem mapM_map_eq_some {α β γ : Type} {f : α → β} {g : β → Option γ} {h : α → γ} {l : List α}
    (hl : ∀ a ∈ l, g (f a) = some (h a)) : (l.map f).mapM g = some (l.map h) := by
  induction l with
  | nil => rfl
  | cons a l ih =>
    have ha := hl a (by simp)
    have hr := ih fun b hb => hl b (by simp [hb])
    simp [List.mapM_cons, ha, hr]

theorem lt_of_mem_pack {mask : UInt32} {block : BlockSize} {g : Grid} {w : UInt32}
    (h : w ∈ (g.pack mask block).words) : w.toNat < 2 ^ block.bits := by
  obtain ⟨words, hw, h⟩ := List.mem_flatten.1 h
  obtain ⟨line, -, rfl⟩ := List.mem_map.1 hw
  exact lt_of_mem_packLine h

theorem words_reorder (k : WordCode) {g : Grid} (h : ∀ w ∈ g.words, w.toNat < 2 ^ k.block.bits) :
    (g.reorder k.block k.order).words = g.words.map k.restoreBytes := by
  cases ho : k.order with
  | bigEndian =>
    have hf : ∀ w ∈ g.words, k.restoreBytes w = w := fun w _ => by
      simp [WordCode.restoreBytes, ho]
    rw [List.map_congr_left hf, List.map_id']
    rfl
  | littleEndian =>
    have hf : k.restoreBytes = k.block.reverseBytes := by
      funext w
      simp [WordCode.restoreBytes, ho]
    rw [hf]
    cases hb : k.block with
    | bits8 =>
      rw [hb] at h
      have hw : ∀ w ∈ g.words, BlockSize.bits8.reverseBytes w = w :=
        fun w hw => reverseBytes_bits8 (h w hw)
      rw [List.map_congr_left hw, List.map_id']
      rfl
    | bits16 | bits24 | bits32 => rfl

theorem restoreBytes_restoreBytes {k : WordCode} {w : UInt32} (h : w.toNat < 2 ^ k.block.bits) :
    k.restoreBytes (k.restoreBytes w) = w := by
  cases ho : k.order with
  | bigEndian => simp [WordCode.restoreBytes, ho]
  | littleEndian => simpa [WordCode.restoreBytes, ho] using reverseBytes_reverseBytes h

theorem restoreBytes_reorder (k : WordCode) {g : Grid}
    (h : ∀ w ∈ g.words, w.toNat < 2 ^ k.block.bits) :
    (g.reorder k.block k.order).words.map k.restoreBytes = g.words := by
  have hw : ∀ w ∈ g.words, (k.restoreBytes ∘ k.restoreBytes) w = w :=
    fun w hw => restoreBytes_restoreBytes (h w hw)
  rw [words_reorder k h, List.map_map, List.map_congr_left hw, List.map_id']

theorem cut_pack {k : WordCode} (hm : k.mask ≠ 0) {g : Grid} (hg : g.Whole)
    (hw : g.width.toNat = k.width) :
    cut k.wordsPerLine (g.pack k.mask k.block).words = g.packedLines k.mask k.block := by
  have hlen : ∀ words ∈ g.packedLines k.mask k.block, words.length = k.wordsPerLine := by
    intro words h
    obtain ⟨line, hl, rfl⟩ := List.mem_map.1 h
    rw [length_packLine, hg.length_line hl, hw]
    rfl
  rcases Nat.eq_zero_or_pos k.width with h0 | h0
  · have hn : g.packedLines k.mask k.block = [] := by simp [Grid.packedLines, hw, h0, cut]
    have he : (g.pack k.mask k.block).words = [] := by simp [Grid.pack, hn]
    rw [he, hn, cut_nil]
  · have hbits := k.block.bits_pos
    have hp : 0 < k.wordsPerLine := by
      have hs := Nat.mul_pos h0 (maskBits_pos hm)
      exact Nat.div_pos (by omega) hbits
    exact cut_flatten hp hlen

theorem unpack?_pack {k : WordCode} (hm : k.mask ≠ 0) {g : Grid} (hg : g.Whole)
    (hw : g.width.toNat = k.width) :
    k.unpack? (g.pack k.mask k.block).words = some (g.words.map (· &&& k.mask)) := by
  have hlines : (g.packedLines k.mask k.block).mapM k.unpackLine? =
      some ((cut g.width.toNat g.words).map (List.map (· &&& k.mask))) := by
    apply mapM_map_eq_some
    intro line hl
    exact unpackLine?_packLine hm (by rw [hg.length_line hl, hw])
  rw [WordCode.unpack?, cut_pack hm hg hw, hlines, Option.map_some, ← List.map_flatten,
    hg.flatten_lines]

theorem decode?_words {k : WordCode} (hm : k.mask ≠ 0) {g : Grid} (hg : g.Whole)
    (hw : g.width.toNat = k.width) :
    let ordered := (g.pack k.mask k.block).reorder k.block k.order
    k.decode? (if k.runLength then ordered.compress else ordered).words =
      some (g.words.map (· &&& k.mask)) := by
  intro ordered
  have hplain : k.expand? (if k.runLength then ordered.compress else ordered).words =
      some ordered.words := by
    rw [WordCode.expand?]
    cases k.runLength with
    | false => rfl
    | true => exact expandWords?_compressWords ordered.words
  rw [WordCode.decode?, hplain, Option.bind_some,
    restoreBytes_reorder k fun w h => lt_of_mem_pack h, unpack?_pack hm hg hw]

def Preset.orderedWords (p : Preset) (image : Raster) : Grid :=
  ((p.samples image).pack p.matrix.used p.layout.blockSize).reorder p.layout.blockSize
    p.layout.byteOrder

theorem convert_standard {p : Preset} (h : p.matrix.used ≠ 0) (image : Raster) :
    Pipeline.standard.convert p image =
      .ok (if p.layout.runLength then (p.orderedWords image).compress
        else p.orderedWords image) := by
  have hp : Pipeline.standard.pack p (p.samples image) =
      .ok ((p.samples image).pack p.matrix.used p.layout.blockSize) := if_neg h
  change (Pipeline.standard.pack p (p.samples image)).bind _ = _
  rw [hp]
  rfl

def sparsePreset : Preset where
  prepare := { conversion := .color }
  matrix := { used := 0x00e00183, operations := [] }
  layout := { blockSize := .bits24, runLength := true }

def stripes : Raster where
  width := 4
  height := 2
  pixels := #[⟨255, 1, 130, 0⟩, ⟨32, 0, 3, 9⟩, ⟨192, 255, 1, 0⟩, ⟨0, 1, 0, 0⟩,
    ⟨0, 0, 0, 0⟩, ⟨0, 0, 0, 0⟩, ⟨0, 0, 0, 0⟩, ⟨0, 0, 0, 0⟩]
  shape := by decide

end RasterText
