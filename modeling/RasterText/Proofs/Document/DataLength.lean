import Mathlib
import RasterText.Preset.Description
import RasterText.Proofs.Document.ItemTags
import RasterText.Proofs.Grid.Shape
set_option autoImplicit false

namespace RasterText

/-- The number of words of an image without packets, if `bpp` bits are kept of a pixel and a word
has `size` bits. Bands are filled up to their width, and every line of a band to whole words. -/
def Preparation.wordCount (p : Preparation) (image : Raster) (bpp size : Nat) : Nat :=
  if image.width = 0 ∨ image.height = 0 then 0
  else
    p.lineCount image * ((p.lineLength image + p.bandWidthFor image - 1) / p.bandWidthFor image) *
      ((p.bandWidthFor image * bpp + size - 1) / size)

theorem Preset.length_orderedWords_eq (p : Preset) (image : Raster) :
    (p.orderedWords image).words.length =
      p.prepare.wordCount image p.matrix.bitsPerPixel p.layout.blockSize.bits := by
  have hb : p.matrix.bitsPerPixel = maskBits p.matrix.used := rfl
  unfold Preparation.wordCount
  rw [length_orderedWords, hb]
  split
  · next h =>
    -- no lines, or none of them with a pixel
    have hz : p.prepare.lineCount image = 0 ∨ p.prepare.lineLength image = 0 := by
      unfold Preparation.lineCount Preparation.lineLength
      split
      · exact h
      · exact h.symm
    rcases hz with hz | hz
    · rw [hz, Nat.zero_mul, Nat.zero_mul]
    · rcases Nat.eq_zero_or_pos (p.prepare.bandWidthFor image) with hw | hw
      · rw [hw, Nat.div_zero, Nat.mul_zero, Nat.zero_mul]
      · have hd : (0 + p.prepare.bandWidthFor image - 1) / p.prepare.bandWidthFor image = 0 :=
          Nat.div_eq_of_lt (by omega)
        rw [hz, hd, Nat.mul_zero, Nat.zero_mul]
  · rfl

theorem used_ne_zero_of_convert {p : Preset} {image : Raster} {g : Grid}
    (h : Pipeline.standard.convert p image = .ok g) : p.matrix.used ≠ 0 := by
  intro h0
  have hp : Pipeline.standard.pack p (p.samples image) = .error .emptyMask := if_pos h0
  change (Pipeline.standard.pack p (p.samples image)).bind _ = _ at h
  rw [hp] at h
  cases h

namespace Renderer

variable {r : Renderer} {base : Tags} {body : List Node} {key : Text}

/-- What a copy of the body for an item says of the data of its image, where `scope` has the tags
that the copy is made with. -/
structure TellsLength (r : Renderer) (base : Tags) (body : List Node) (key copy : Text)
    (image : Raster) (scope : Scope) (count : Nat) (data : Text) : Prop where
  image_eq : r.items.image? key = some image
  tags : ∃ last tags, r.itemTags base key last = .ok tags ∧ scope = ⟨base, .ofList tags⟩
  copy_eq : copy = '\n' :: substitute scope.get? body
  count_eq : scope.get? "blocksCount".toList = some (decimal count)
  data_eq : scope.get? "imageData".toList = some data
  literals : (∀ c ∈ (base.get? indentTag).getD defaultIndent, c = ' ' ∨ c = '\t') →
    (literalValues data).length = count
  closed : r.preset.layout.runLength = false → ∃ bpp size,
    r.preset.tags.get? "bpp".toList = some (decimal bpp) ∧
    r.preset.tags.get? "dataBlockSize".toList = some (decimal size) ∧
    count = r.preset.prepare.wordCount image bpp size

theorem expandItem_tellsLength (hr : r.pipeline = .standard) {last : Bool} {copy : Text}
    (h : r.expandItem base body key last = .ok copy) :
    ∃ image scope count data, r.TellsLength base body key copy image scope count data := by
  rw [expandItem, bind_eq_ok] at h
  obtain ⟨tags, ht, h⟩ := h
  rw [foldl_set] at h
  obtain ⟨image, grid, code, hi, hg, -, htags⟩ := itemTags_eq_ok ht
  rw [hr] at hg htags
  let indent := (base.get? indentTag).getD defaultIndent
  let data := Text.replaceChar '\n' ('\n' :: indent)
    (Pipeline.standard.format r.preset radixPrefix grid)
  have hcount : tags.reverse.lookup "blocksCount".toList = some (decimal grid.words.length) := by
    rw [htags]
    rfl
  have hdata : tags.reverse.lookup "imageData".toList = some data := by
    rw [htags]
    rfl
  have hliterals (hindent : ∀ c ∈ indent, c = ' ' ∨ c = '\t') :
      (literalValues data).length = grid.words.length := by
    have hv : literalValues data = grid.words.map UInt32.toNat :=
      literalValues_format r.preset.layout.blockSize r.preset.layout.splitToRows grid hindent
    rw [hv, List.length_map]
  have hlength (hplain : r.preset.layout.runLength = false) :
      grid.words.length = r.preset.prepare.wordCount image r.preset.matrix.bitsPerPixel
        r.preset.layout.blockSize.bits := by
    rw [convert_standard (used_ne_zero_of_convert hg), hplain] at hg
    cases hg
    exact r.preset.length_orderedWords_eq image
  obtain ⟨hbpp, hsize⟩ := r.preset.get?_tags
  cases h
  exact ⟨image, ⟨base, .ofList tags⟩, grid.words.length, data,
    { image_eq := hi
      tags := ⟨last, tags, ht, rfl⟩
      copy_eq := rfl
      count_eq := Scope.get?_ofList hcount base
      data_eq := Scope.get?_ofList hdata base
      literals := hliterals
      closed := fun hplain => ⟨_, _, hbpp, hsize, hlength hplain⟩ }⟩

theorem expandKeys_tellsLength (hr : r.pipeline = .standard) {keys : List Text} {text : Text}
    (h : r.expandKeys base body keys = .ok text) :
    ∃ copies : List Text, text = copies.flatten ∧ List.Forall₂ (fun key copy =>
      ∃ image scope count data, r.TellsLength base body key copy image scope count data)
        keys copies := by
  induction keys generalizing text with
  | nil =>
    cases h
    exact ⟨[], rfl, .nil⟩
  | cons key rest ih =>
    rw [expandKeys, bind_eq_ok] at h
    obtain ⟨copy, hc, h⟩ := h
    rw [bind_eq_ok] at h
    obtain ⟨more, hm, h⟩ := h
    obtain ⟨copies, rfl, hall⟩ := ih hm
    cases h
    exact ⟨copy :: copies, rfl, .cons (expandItem_tellsLength hr hc) hall⟩

/-- Whenever an images table is expanded with the standard pipeline, the copy for each item tells
the number of the literals that it shows, as computed from the size of the image and the tags of the
preset if there are no packets. -/
theorem renderNode_tellsLength {span : Span} {text : Text} (hr : r.pipeline = .standard)
    (h : r.renderNode base (.block imagesTable body span) = .ok text) :
    ∃ copies : List Text, text = copies.flatten ∧ List.Forall₂ (fun key copy =>
      ∃ image scope count data, r.TellsLength base body key copy image scope count data)
        r.items.keys copies := by
  rw [renderNode, if_pos rfl] at h
  exact expandKeys_tellsLength hr h

def bandedRow : Renderer where
  items := ⟨["k".toList], fun _ =>
    some ⟨3, 1, #[⟨9, 9, 9, 255⟩, ⟨8, 8, 8, 255⟩, ⟨7, 7, 7, 255⟩], by decide⟩⟩
  pipeline := .standard
  preset :=
    { prepare := { conversion := .color, banded := true, bandWidth := 2 }
      matrix := { used := 0xff, operations := [] }
      layout := { blockSize := .bits16, splitToRows := true } }

def lengthBody : List Node :=
  [.tag "blocksCount".toList ⟨0, 1⟩, .text ": ".toList ⟨1, 3⟩, .tag "imageData".toList ⟨3, 4⟩]

theorem renderNode_tellsLength_bandedRow :
    bandedRow.renderNode .empty (.block imagesTable lengthBody ⟨0, 4⟩) =
        .ok "\n2: 0x0809,\n    0x0007".toList ∧
      ∃ copies : List Text, "\n2: 0x0809,\n    0x0007".toList = copies.flatten ∧
        List.Forall₂ (fun key copy => ∃ image scope count data,
          bandedRow.TellsLength .empty lengthBody key copy image scope count data)
            bandedRow.items.keys copies := by
  have h : bandedRow.renderNode .empty (.block imagesTable lengthBody ⟨0, 4⟩) =
      .ok "\n2: 0x0809,\n    0x0007".toList := by cbv
  exact ⟨h, renderNode_tellsLength rfl h⟩

end Renderer

end RasterText
