import RasterText.Proofs.Grid.Literals
import RasterText.Proofs.Grid.Recovery
set_option autoImplicit false

namespace RasterText

theorem getLast?_length {α : Type} {n : Nat} {lines : List (List α)}
    (h : ∀ line ∈ lines, line.length = n) (hne : lines ≠ []) :
    (lines.getLast?.map List.length).getD 0 = n := by
  rw [List.getLast?_eq_getLast_of_ne_nil hne, Option.map_some, Option.getD_some]
  exact h _ (List.getLast_mem hne)

theorem Grid.exists_reorder_eq (g : Grid) (block : BlockSize) (order : ByteOrder) :
    ∃ f : UInt32 → UInt32, g.reorder block order = { g with words := g.words.map f } := by
  unfold Grid.reorder
  split
  · exact ⟨id, by simp⟩
  · exact ⟨id, by simp⟩
  · exact ⟨_, rfl⟩

namespace Grid

variable {g : Grid} {mask : UInt32} {block : BlockSize} {words : List UInt32}

theorem Whole.length_packedLine (hg : g.Whole) (h : words ∈ g.packedLines mask block) :
    words.length = (g.width.toNat * maskBits mask + block.bits - 1) / block.bits := by
  obtain ⟨line, hl, rfl⟩ := List.mem_map.1 h
  rw [length_packLine, hg.length_line hl]

theorem Whole.width_pack (hg : g.Whole) (h : words ∈ g.packedLines mask block) :
    (g.pack mask block).width = UInt32.ofNat words.length := by
  have hlen := fun other (ho : other ∈ g.packedLines mask block) => hg.length_packedLine ho
  rw [hg.length_packedLine h]
  exact congrArg UInt32.ofNat (getLast?_length hlen (List.ne_nil_of_mem h))

theorem Whole.toNat_width_pack (hg : g.Whole) (h : words ∈ g.packedLines mask block)
    (hc : (g.pack mask block).words.length < UInt32.size) :
    (g.pack mask block).width.toNat = words.length := by
  have hle : words.length ≤ (g.pack mask block).words.length :=
    (List.sublist_flatten_of_mem h).length_le
  rw [hg.width_pack h]
  exact UInt32.toNat_ofNat_of_lt' (Nat.lt_of_le_of_lt hle hc)

theorem Full.length_lines (hg : g.Full) (hw : 0 < g.width.toNat) :
    (cut g.width.toNat g.words).length = g.height.toNat := by
  rw [length_cut, hg, Nat.add_sub_assoc hw, Nat.mul_add_div hw,
    Nat.div_eq_of_lt (Nat.sub_lt hw Nat.one_pos), Nat.add_zero]

theorem Full.pack (hg : g.Full) (hc : (g.pack mask block).words.length < UInt32.size) :
    (g.pack mask block).Full := by
  by_cases hn : g.packedLines mask block = []
  · simp [Full, Grid.pack, hn]
  · obtain ⟨words, hmem⟩ := List.exists_mem_of_ne_nil _ hn
    have hw : 0 < g.width.toNat := by
      rcases Nat.eq_zero_or_pos g.width.toNat with h0 | h0
      · exact absurd (by simp [packedLines, h0, cut]) hn
      · exact h0
    have hline : ∀ other ∈ g.packedLines mask block, other.length = words.length := fun _ h =>
      (hg.whole.length_packedLine h).trans (hg.whole.length_packedLine hmem).symm
    have hlines : (g.packedLines mask block).length = g.height.toNat := by
      rw [packedLines, List.length_map, hg.length_lines hw]
    rw [Full, hg.whole.toNat_width_pack hmem hc]
    exact (length_flatten_of_length_eq hline).trans (congrArg _ hlines)

theorem Full.reorder (hg : g.Full) (block : BlockSize) (order : ByteOrder) :
    (g.reorder block order).Full := by
  obtain ⟨f, hf⟩ := g.exists_reorder_eq block order
  rw [hf]
  simpa [Full] using hg

theorem full_compress (hc : g.compress.words.length < UInt32.size) : g.compress.Full := by
  have hwidth : g.compress.width.toNat = g.compress.words.length := UInt32.toNat_ofNat_of_lt' hc
  rw [Full, hwidth]
  by_cases h : g.words = []
  · simp [Grid.compress, compressWords, packets, h]
  · simp [Grid.compress, h]

end Grid

theorem reverseBytes_lt (block : BlockSize) (w : UInt32) :
    (block.reverseBytes w).toNat < 2 ^ block.bits := by
  apply Nat.lt_pow_two_of_testBit
  intro i hi
  rw [testBit_reverseBytes]
  simp [show ¬ i < block.bits by omega]

theorem restoreBytes_lt (k : WordCode) {w : UInt32} (h : w.toNat < 2 ^ k.block.bits) :
    (k.restoreBytes w).toNat < 2 ^ k.block.bits := by
  unfold WordCode.restoreBytes
  split
  · exact h
  · exact reverseBytes_lt k.block w

theorem Packet.WellFormed.mem_serialize {p : Packet} (h : p.WellFormed) {w : UInt32}
    (hw : w ∈ p.serialize) : w.toNat < 256 ∨ w ∈ p.expand := by
  have hl : packetLimit = 127 := rfl
  cases p with
  | run count word =>
    simp only [Packet.WellFormed] at h
    simp only [Packet.serialize, List.mem_cons, List.not_mem_nil, or_false] at hw
    rcases hw with rfl | rfl
    · rw [UInt32.toNat_ofNat_of_lt' (by simp only [UInt32.size]; omega)]
      exact .inl (by omega)
    · exact .inr (by simp [Packet.expand]; omega)
  | literal words =>
    simp only [Packet.WellFormed] at h
    rcases List.mem_cons.1 hw with rfl | hw
    · rw [UInt32.toNat_ofNat_of_lt' (by simp only [UInt32.size]; omega)]
      exact .inl (by omega)
    · exact .inr hw

theorem mem_compressWords {words : List UInt32} {w : UInt32} (h : w ∈ compressWords words) :
    w.toNat < 256 ∨ w ∈ words := by
  obtain ⟨p, hp, hw⟩ := List.mem_flatMap.1 h
  rcases (packets_wellFormed words p hp).mem_serialize hw with hw | hw
  · exact .inl hw
  · rw [← expand_packets words]
    exact .inr (List.mem_flatMap.2 ⟨p, hp, hw⟩)

theorem lt_of_mem_compress {g : Grid} {block : BlockSize}
    (hg : ∀ w ∈ g.words, w.toNat < 2 ^ block.bits) {w : UInt32} (h : w ∈ g.compress.words) :
    w.toNat < 2 ^ block.bits := by
  have hb : 2 ^ 8 ≤ 2 ^ block.bits := Nat.pow_le_pow_right (by omega) (by cases block <;> decide)
  rcases mem_compressWords h with h | h
  · omega
  · exact hg w h

theorem cut_map {α β : Type} (f : α → β) (n : Nat) (l : List α) :
    cut n (l.map f) = (cut n l).map (List.map f) := by
  cases n with
  | zero => rfl
  | succ n =>
    simp only [cut]
    fun_induction cutSucc n l with
    | case1 => simp [cutSucc]
    | case2 a rest ih =>
      rw [List.map_cons, cutSucc, ← List.map_drop, ih, ← List.map_take]
      rfl

theorem cut_scan (p : Preparation) (r : Raster) :
    cut (p.bandWidthFor r) (r.scan p).words = r.scanLines p := by
  rcases Nat.eq_zero_or_pos (p.bandWidthFor r) with h | h
  · have hn : r.scanLines p = [] := by simp [Raster.scanLines, h, cut]
    simp [Raster.scan, hn]
  · exact cut_flatten h fun _ hl => length_of_mem_scanLines hl

theorem length_places (reversed : Bool) (n : Nat) : (places reversed n).length = n := by
  cases reversed <;> simp [places]

theorem prepare_dimensions (p : Preparation) (r : Raster) :
    (r.prepare p).width = r.width ∧ (r.prepare p).height = r.height := by
  unfold Raster.prepare
  cases p.conversion <;> cases p.dither <;> cases p.inverse <;> exact ⟨rfl, rfl⟩

namespace Preparation

variable (p : Preparation) (r : Raster)

theorem lineLength_prepare : p.lineLength (r.prepare p) = p.lineLength r := by
  obtain ⟨hw, hh⟩ := prepare_dimensions p r
  rw [lineLength, lineLength, hw, hh]

theorem lineCount_prepare : p.lineCount (r.prepare p) = p.lineCount r := by
  obtain ⟨hw, hh⟩ := prepare_dimensions p r
  rw [lineCount, lineCount, hw, hh]

theorem bandWidthFor_prepare : p.bandWidthFor (r.prepare p) = p.bandWidthFor r := by
  rw [bandWidthFor, bandWidthFor, lineLength_prepare]

theorem length_scanLines : (r.scanLines p).length =
    p.lineCount r * ((p.lineLength r + p.bandWidthFor r - 1) / p.bandWidthFor r) := by
  have hl : ∀ piece ∈ (cut (p.bandWidthFor r) (places (p.scanSub == .backward)
      (p.lineLength r))).map fun band =>
        (places p.scanMain.isReversed (p.lineCount r)).map (p.bandLine r band),
      piece.length = p.lineCount r := by
    intro piece hm
    obtain ⟨band, -, rfl⟩ := List.mem_map.1 hm
    rw [List.length_map, length_places]
  rw [Raster.scanLines, List.flatMap_def, length_flatten_of_length_eq hl, List.length_map,
    length_cut, length_places]

end Preparation

namespace Preset

variable (p : Preset) (image : Raster)

def lines : List (List UInt32) := (image.prepare p.prepare).scanLines p.prepare

def lineWords (line : List UInt32) : List UInt32 :=
  (packLine p.matrix.used p.layout.blockSize (line.map p.matrix.apply)).map
    (p.wordCode line.length).restoreBytes

theorem length_lineWords (line : List UInt32) :
    (p.lineWords line).length =
      (line.length * maskBits p.matrix.used + p.layout.blockSize.bits - 1) /
        p.layout.blockSize.bits := by
  rw [lineWords, List.length_map, length_packLine, List.length_map]

theorem packedLines_samples :
    (p.samples image).packedLines p.matrix.used p.layout.blockSize =
      (p.lines image).map fun line =>
        packLine p.matrix.used p.layout.blockSize (line.map p.matrix.apply) := by
  have hw : (p.samples image).words =
      ((image.prepare p.prepare).scan p.prepare).words.map p.matrix.apply := rfl
  have hc : cut (p.samples image).width.toNat (p.samples image).words =
      (p.lines image).map (List.map p.matrix.apply) := by
    rw [hw, cut_map, samples, Grid.process, toNat_width_scan, cut_scan]
    rfl
  rw [Grid.packedLines, hc, List.map_map]
  rfl

theorem words_orderedWords :
    (p.orderedWords image).words = (p.lines image).flatMap p.lineWords := by
  have hr := words_reorder (p.wordCode 0)
    (g := (p.samples image).pack p.matrix.used p.layout.blockSize) fun _ h => lt_of_mem_pack h
  have hp : ((p.samples image).pack p.matrix.used p.layout.blockSize).words =
      ((p.samples image).packedLines p.matrix.used p.layout.blockSize).flatten := rfl
  rw [hp, packedLines_samples, List.map_flatten, List.map_map] at hr
  rw [List.flatMap_def]
  exact hr

theorem whole_samples : (p.samples image).Whole := (whole_scan p.prepare _).process p.matrix

theorem toNat_width_samples : (p.samples image).width.toNat = p.prepare.bandWidthFor image :=
  (toNat_width_scan p.prepare _).trans (p.prepare.bandWidthFor_prepare image)

theorem orderedWords_dimensions :
    (p.orderedWords image).width =
        ((p.samples image).pack p.matrix.used p.layout.blockSize).width ∧
      (p.orderedWords image).words.length =
        ((p.samples image).pack p.matrix.used p.layout.blockSize).words.length := by
  obtain ⟨f, hf⟩ := ((p.samples image).pack p.matrix.used p.layout.blockSize).exists_reorder_eq
    p.layout.blockSize p.layout.byteOrder
  rw [orderedWords, hf]
  exact ⟨rfl, List.length_map f⟩

theorem lt_of_mem_orderedWords {w : UInt32} (h : w ∈ (p.orderedWords image).words) :
    w.toNat < 2 ^ p.layout.blockSize.bits := by
  rw [words_orderedWords] at h
  obtain ⟨line, -, h⟩ := List.mem_flatMap.1 h
  obtain ⟨v, hv, rfl⟩ := List.mem_map.1 h
  exact restoreBytes_lt _ (lt_of_mem_packLine hv)

theorem length_orderedWords :
    (p.orderedWords image).words.length =
      p.prepare.lineCount image *
          ((p.prepare.lineLength image + p.prepare.bandWidthFor image - 1) /
            p.prepare.bandWidthFor image) *
        ((p.prepare.bandWidthFor image * maskBits p.matrix.used + p.layout.blockSize.bits - 1) /
          p.layout.blockSize.bits) := by
  have hline : ∀ words ∈ (p.lines image).map p.lineWords, words.length =
      (p.prepare.bandWidthFor image * maskBits p.matrix.used + p.layout.blockSize.bits - 1) /
        p.layout.blockSize.bits := by
    intro words h
    obtain ⟨line, hl, rfl⟩ := List.mem_map.1 h
    rw [length_lineWords, length_of_mem_scanLines hl, Preparation.bandWidthFor_prepare]
  rw [words_orderedWords, List.flatMap_def, length_flatten_of_length_eq hline, List.length_map,
    lines, Preparation.length_scanLines, Preparation.lineCount_prepare,
    Preparation.lineLength_prepare, Preparation.bandWidthFor_prepare, Nat.mul_comm]

variable {p image}

theorem length_of_mem_lines {line : List UInt32} (h : line ∈ p.lines image) :
    line.length = p.prepare.bandWidthFor (image.prepare p.prepare) ∧
      0 < p.prepare.bandWidthFor (image.prepare p.prepare) := by
  refine ⟨length_of_mem_scanLines h, Nat.pos_of_ne_zero fun h0 => ?_⟩
  simp [lines, Raster.scanLines, h0, cut] at h

theorem lineWords_ne_nil (hm : p.matrix.used ≠ 0) {line : List UInt32} (h : line ∈ p.lines image) :
    p.lineWords line ≠ [] := by
  obtain ⟨hl, hb⟩ := length_of_mem_lines h
  have hbits := p.layout.blockSize.bits_pos
  have hs := Nat.mul_pos hb (maskBits_pos hm)
  rw [← List.length_pos_iff, length_lineWords, hl]
  exact Nat.div_pos (by omega) hbits

theorem cut_orderedWords (hm : p.matrix.used ≠ 0)
    (hc : (p.orderedWords image).words.length < UInt32.size) (hne : p.lines image ≠ []) :
    0 < (p.orderedWords image).width.toNat ∧
      cut (p.orderedWords image).width.toNat (p.orderedWords image).words =
        (p.lines image).map p.lineWords := by
  obtain ⟨hwidth, hlength⟩ := p.orderedWords_dimensions image
  have hline : ∀ words ∈ (p.lines image).map p.lineWords,
      words.length = (p.orderedWords image).width.toNat := by
    intro words h
    obtain ⟨line, hl, rfl⟩ := List.mem_map.1 h
    have hpacked := packedLines_samples p image ▸ List.mem_map_of_mem hl
    rw [hwidth, (p.whole_samples image).toNat_width_pack hpacked (hlength ▸ hc), lineWords,
      List.length_map]
  have hpos : 0 < (p.orderedWords image).width.toNat := by
    obtain ⟨line, hl⟩ := List.exists_mem_of_ne_nil _ hne
    have hn := List.length_pos_iff.2 (lineWords_ne_nil hm hl)
    rwa [hline _ (List.mem_map_of_mem hl)] at hn
  refine ⟨hpos, ?_⟩
  rw [words_orderedWords, List.flatMap_def]
  exact cut_flatten hpos hline

theorem format_orderedWords (hm : p.matrix.used ≠ 0)
    (hc : (p.orderedWords image).words.length < UInt32.size) (lead : Text) :
    (p.orderedWords image).format p.layout.blockSize true lead =
      rowSeparator.intercalate (((p.lines image).map p.lineWords).map
        (rowLiteral p.layout.blockSize lead)) := by
  by_cases hne : p.lines image = []
  · have hw : (p.orderedWords image).words = [] := by rw [words_orderedWords, hne]; rfl
    rw [hne, Grid.format, Grid.textRows, hw]
    split <;> simp [rowLiteral, List.intercalate]
  · obtain ⟨hpos, hcut⟩ := cut_orderedWords hm hc hne
    rw [Grid.format, Grid.textRows, if_pos ⟨rfl, hpos⟩, hcut]

theorem rowsOf_lines (hm : p.matrix.used ≠ 0) {lead : Text} (hl : '\n' ∉ lead) :
    let rows := ((p.lines image).map p.lineWords).map (rowLiteral p.layout.blockSize lead)
    rowsOf (rowSeparator.intercalate rows) = rows := by
  intro rows
  refine rowsOf_intercalate fun row hrow => ?_
  simp only [rows, List.map_map] at hrow
  obtain ⟨line, hline, rfl⟩ := List.mem_map.1 hrow
  exact ⟨rowLiteral_ne_nil _ _ (lineWords_ne_nil hm hline), lineFeed_not_mem_rowLiteral hl _ _⟩

variable (p image)

def codedWords : Grid :=
  if p.layout.runLength then (p.orderedWords image).compress else p.orderedWords image

theorem codedWords_of_plain (h : p.layout.runLength = false) :
    p.codedWords image = p.orderedWords image := by
  simp [codedWords, h]

variable {p image}

theorem lt_of_mem_codedWords {w : UInt32} (h : w ∈ (p.codedWords image).words) :
    w.toNat < 2 ^ p.layout.blockSize.bits := by
  unfold codedWords at h
  split at h
  · exact lt_of_mem_compress (fun _ h => p.lt_of_mem_orderedWords image h) h
  · exact p.lt_of_mem_orderedWords image h

theorem full_codedWords (h : (p.orderedWords image).Full)
    (hc : (p.codedWords image).words.length < UInt32.size) : (p.codedWords image).Full := by
  unfold codedWords at hc ⊢
  split at hc
  · next hr => exact if_pos hr ▸ Grid.full_compress hc
  · next hr => exact if_neg hr ▸ h

end Preset

/-- The data of an image after each stage of the standard pipeline. -/
structure StandardRun (p : Preset) (image : Raster) where
  prepared : Raster
  extracted : Grid
  processed : Grid
  packed : Grid
  ordered : Grid
  coded : Grid
  prepare_eq : Pipeline.standard.prepare p image = .ok prepared
  extract_eq : Pipeline.standard.extract p prepared = .ok extracted
  process_eq : Pipeline.standard.process p extracted = .ok processed
  pack_eq : Pipeline.standard.pack p processed = .ok packed
  reorder_eq : Pipeline.standard.reorder p packed = .ok ordered
  compress_eq : Pipeline.standard.compress p ordered = .ok coded

namespace StandardRun

variable {p : Preset} {image : Raster}

def grids (run : StandardRun p image) : List Grid :=
  [run.extracted, run.processed, run.packed, run.ordered, run.coded]

/-- Whether the words can be counted in 32 bits, as the dimensions are. -/
def Countable (run : StandardRun p image) : Prop := ∀ g ∈ run.grids, g.words.length < UInt32.size

/-- What holds of the data, whatever the image, and of the text that is made of them. -/
structure WellShaped (run : StandardRun p image) : Prop where
  full : run.Countable → ∀ g ∈ run.grids, g.words.length = g.width.toNat * g.height.toNat
  fits : ∀ g ∈ [run.packed, run.ordered, run.coded], ∀ w ∈ g.words,
    w.toNat < 2 ^ p.layout.blockSize.bits
  /-- The text has all words in rows, and every word has one digit for four bits of its block. -/
  text : ∀ lead, ∃ rows : List (List UInt32), rows.flatten = run.coded.words ∧
    Pipeline.standard.format p lead run.coded =
      rowSeparator.intercalate (rows.map (rowLiteral p.layout.blockSize lead)) ∧
    ∀ w ∈ run.coded.words, ∃ digits, wordLiteral p.layout.blockSize lead w = lead ++ digits ∧
      digits.length = p.layout.blockSize.bits / 4 ∧ (∀ c ∈ digits, isHexDigit c = true) ∧
      readHex digits = some w.toNat
  /-- Without packets, the rows of a text that is split are the scan lines. -/
  rows : run.Countable → p.layout.splitToRows = true → p.layout.runLength = false → ∀ lead,
    let rows := ((cut run.extracted.width.toNat run.extracted.words).map p.lineWords).map
      (rowLiteral p.layout.blockSize lead)
    Pipeline.standard.format p lead run.coded = rowSeparator.intercalate rows ∧
      ('\n' ∉ lead → rowsOf (Pipeline.standard.format p lead run.coded) = rows)

end StandardRun

/-- The run of an image for a mask that selects any bit. -/
def standardRun (p : Preset) (image : Raster) (h : p.matrix.used ≠ 0) : StandardRun p image where
  prepared := image.prepare p.prepare
  extracted := (image.prepare p.prepare).scan p.prepare
  processed := p.samples image
  packed := (p.samples image).pack p.matrix.used p.layout.blockSize
  ordered := p.orderedWords image
  coded := p.codedWords image
  prepare_eq := rfl
  extract_eq := rfl
  process_eq := rfl
  pack_eq := if_neg h
  reorder_eq := rfl
  compress_eq := rfl

section StandardRun

variable {p : Preset} {image : Raster} (h : p.matrix.used ≠ 0)

theorem standardRun_fits : ∀ g ∈ [(standardRun p image h).packed, (standardRun p image h).ordered,
    (standardRun p image h).coded], ∀ w ∈ g.words, w.toNat < 2 ^ p.layout.blockSize.bits := by
  simp only [List.mem_cons, List.not_mem_nil, or_false, forall_eq_or_imp, forall_eq]
  exact ⟨fun _ h => lt_of_mem_pack h, fun _ h => p.lt_of_mem_orderedWords image h,
    fun _ h => Preset.lt_of_mem_codedWords h⟩

theorem countable_standardRun_iff : (standardRun p image h).Countable ↔
    ((image.prepare p.prepare).scan p.prepare).words.length < UInt32.size ∧
      (p.samples image).words.length < UInt32.size ∧
      ((p.samples image).pack p.matrix.used p.layout.blockSize).words.length < UInt32.size ∧
      (p.orderedWords image).words.length < UInt32.size ∧
      (p.codedWords image).words.length < UInt32.size := by
  simp only [StandardRun.Countable, StandardRun.grids, standardRun, List.mem_cons,
    List.not_mem_nil, or_false, forall_eq_or_imp, forall_eq]

theorem full_standardRun (hc : (standardRun p image h).Countable) :
    ∀ g ∈ (standardRun p image h).grids, g.Full := by
  obtain ⟨hextracted, -, hpacked, -, hcoded⟩ := (countable_standardRun_iff h).1 hc
  have hscan := full_scan hextracted
  have hpack := (hscan.process p.matrix).pack hpacked
  have hordered := hpack.reorder p.layout.blockSize p.layout.byteOrder
  simp only [StandardRun.grids, standardRun, List.mem_cons, List.not_mem_nil, or_false,
    forall_eq_or_imp, forall_eq]
  exact ⟨hscan, hscan.process _, hpack, hordered, Preset.full_codedWords hordered hcoded⟩

theorem format_standardRun (hc : (standardRun p image h).Countable)
    (hs : p.layout.splitToRows = true) (hr : p.layout.runLength = false) (lead : Text) :
    Pipeline.standard.format p lead (standardRun p image h).coded =
      rowSeparator.intercalate (((p.lines image).map p.lineWords).map
        (rowLiteral p.layout.blockSize lead)) := by
  obtain ⟨-, -, -, hordered, -⟩ := (countable_standardRun_iff h).1 hc
  rw [← Preset.format_orderedWords h hordered lead, ← p.codedWords_of_plain image hr, ← hs]
  rfl

theorem cut_extracted_standardRun :
    cut (standardRun p image h).extracted.width.toNat (standardRun p image h).extracted.words =
      p.lines image := by
  simp only [standardRun]
  rw [toNat_width_scan, cut_scan]
  rfl

end StandardRun

/-- Every image is converted to data of the right shape, if the mask selects any bit. -/
theorem convert_wellShaped (p : Preset) (image : Raster) (h : p.matrix.used ≠ 0) :
    ∃ run : StandardRun p image,
      Pipeline.standard.convert p image = .ok run.coded ∧ run.WellShaped := by
  refine ⟨standardRun p image h, convert_standard h image, ?_⟩
  constructor
  case full => exact full_standardRun h
  case fits => exact standardRun_fits h
  case text =>
    intro lead
    refine ⟨(p.codedWords image).textRows p.layout.splitToRows, flatten_textRows _ _, rfl,
      fun w hw => ?_⟩
    exact ⟨_, rfl, length_digits (Preset.lt_of_mem_codedWords hw),
      fun c hc => isHexDigit_of_mem_hexPadded hc, readHex_hexPadded _ _⟩
  case rows =>
    intro hc hs hr lead
    rw [cut_extracted_standardRun, format_standardRun h hc hs hr]
    exact ⟨rfl, fun hl => Preset.rowsOf_lines h hl⟩

def pairPreset : Preset where
  prepare := { conversion := .color, scanMain := .leftToRight }
  matrix := { used := 0x81, operations := [] }
  layout := { blockSize := .bits16, splitToRows := true }

theorem convert_wellShaped_stripes :
    pairPreset.matrix.used ≠ 0 ∧ ∃ run : StandardRun pairPreset stripes,
      Pipeline.standard.convert pairPreset stripes = .ok run.coded ∧ run.WellShaped ∧
        run.Countable := by
  have hm : pairPreset.matrix.used ≠ 0 := by decide
  obtain ⟨run, hc, hw⟩ := convert_wellShaped pairPreset stripes hm
  refine ⟨hm, run, hc, hw, ?_⟩
  obtain ⟨prepared, extracted, processed, packed, ordered, coded, hprepare, hextract, hprocess,
    hpack, hreorder, hcompress⟩ := run
  -- every stage gives just one result
  cases hprepare
  cases hextract
  cases hprocess
  cases hpack
  cases hreorder
  cases hcompress
  simp only [StandardRun.Countable, StandardRun.grids, List.mem_cons, List.not_mem_nil, or_false,
    forall_eq_or_imp, forall_eq]
  refine ⟨?_, ?_, ?_, ?_, ?_⟩ <;> decide +kernel

end RasterText
