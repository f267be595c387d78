import Mathlib
import RasterText.Document.Convert
import RasterText.Files.Tree
import RasterText.Preset.Builtin
set_option autoImplicit false

namespace RasterText

/-- The settings that are read, with fixed values in the place of the others. -/
def Preparation.effective (p : Preparation) : Preparation where
  conversion := p.conversion
  dither := if p.conversion = .monochrome then p.dither else .edge
  edge := if p.conversion = .monochrome ∧ p.dither ≠ .ordered then p.edge else 0
  scanMain := p.scanMain
  scanSub := p.scanSub
  inverse := p.inverse
  banded := p.banded
  bandWidth := if p.banded then p.bandWidth else 0

def WordLayout.effective (l : WordLayout) : WordLayout where
  blockSize := l.blockSize
  byteOrder := if l.blockSize = .bits8 then .littleEndian else l.byteOrder
  splitToRows := false
  runLength := l.runLength

/-- The part of a preset that the words of an image depend on. -/
def Preset.effective (p : Preset) : Preset where
  name := []
  prepare := p.prepare.effective
  matrix := p.matrix
  layout := p.layout.effective

namespace Preparation

variable (p : Preparation) (image : Raster)

theorem prepare_effective : image.prepare p.effective = image.prepare p := by
  unfold Raster.prepare effective
  cases p.conversion with
  | grayscale | color => rfl
  | monochrome => cases p.dither <;> rfl

theorem bandWidthFor_effective : p.effective.bandWidthFor image = p.bandWidthFor image := by
  unfold bandWidthFor effective
  cases p.banded <;> simp [lineLength]

theorem scan_effective : image.scan p.effective = image.scan p := by
  have hline : p.effective.bandLine image = p.bandLine image := by
    funext band line
    rw [bandLine, bandLine, bandWidthFor_effective]
    rfl
  have hlines : image.scanLines p.effective = image.scanLines p := by
    rw [Raster.scanLines, Raster.scanLines, hline, bandWidthFor_effective]
    rfl
  rw [Raster.scan, Raster.scan, hlines, bandWidthFor_effective]

end Preparation

theorem Grid.reorder_effective (l : WordLayout) (g : Grid) :
    g.reorder l.blockSize l.effective.byteOrder = g.reorder l.blockSize l.byteOrder := by
  obtain ⟨block, order, split, run⟩ := l
  cases block <;> cases order <;> rfl

theorem Preset.convert_effective (p : Preset) (image : Raster) :
    Pipeline.standard.convert p.effective image = Pipeline.standard.convert p image := by
  have hprepare : image.prepare p.effective.prepare = image.prepare p.prepare :=
    p.prepare.prepare_effective image
  have hscan (r : Raster) : r.scan p.effective.prepare = r.scan p.prepare :=
    p.prepare.scan_effective r
  have hreorder (g : Grid) : g.reorder p.effective.layout.blockSize p.effective.layout.byteOrder =
      g.reorder p.layout.blockSize p.layout.byteOrder := Grid.reorder_effective p.layout g
  simp only [Pipeline.convert, Pipeline.standard, hprepare, hscan, hreorder]
  rfl

theorem Preset.convert_congr {p q : Preset} (h : p.effective = q.effective) (image : Raster) :
    Pipeline.standard.convert p image = Pipeline.standard.convert q image := by
  rw [← p.convert_effective, h, q.convert_effective]

namespace Renderer

variable {r r' : Renderer}

theorem expandKeys_congr_items
    (ht : ∀ base key last, r.itemTags base key last = r'.itemTags base key last)
    (base : Tags) (body : List Node) (keys : List Text) :
    r.expandKeys base body keys = r'.expandKeys base body keys := by
  induction keys with
  | nil => rfl
  | cons key rest ih => rw [expandKeys, expandKeys, expandItem, expandItem, ht, ih]

mutual

theorem renderNode_congr_items (hk : r.items.keys = r'.items.keys)
    (ht : ∀ base key last, r.itemTags base key last = r'.itemTags base key last)
    (base : Tags) (node : Node) : r.renderNode base node = r'.renderNode base node := by
  cases node with
  | text _ _ | tag _ _ | strayEnd _ _ | unclosed _ _ => rfl
  | block name body span =>
    rw [renderNode, renderNode, hk, expandKeys_congr_items ht, render_congr_items hk ht base body]

theorem render_congr_items (hk : r.items.keys = r'.items.keys)
    (ht : ∀ base key last, r.itemTags base key last = r'.itemTags base key last)
    (base : Tags) (nodes : List Node) : r.render base nodes = r'.render base nodes := by
  cases nodes with
  | nil => rfl
  | cons node rest =>
    rw [render, render, renderNode_congr_items hk ht base node, render_congr_items hk ht base rest]

end

end Renderer

namespace Preset

variable (p : Preset)

def withReduction (dither : Dither) (edge : UInt8) : Preset :=
  { p with prepare := { p.prepare with dither, edge } }

variable {p} (h : p.prepare.conversion ≠ .monochrome) (dither : Dither) (edge : UInt8)

include h

theorem effective_withReduction : (p.withReduction dither edge).effective = p.effective := by
  simp only [effective, withReduction, Preparation.effective, h, if_false, false_and]
  rfl

theorem tags_withReduction : (p.withReduction dither edge).tags = p.tags := by
  have hc : (p.prepare.conversion == .monochrome) = false := beq_false_of_ne h
  simp only [tags, tagEntries, withReduction, hc]
  rfl

end Preset

namespace ConvertConfig

variable {c : ConvertConfig} (h : c.preset.prepare.conversion ≠ .monochrome)
  (dither : Dither) (edge : UInt8)

include h

theorem renderBody_withReduction (items : ItemSource) (body : TemplateBody) :
    ({ c with preset := c.preset.withReduction dither edge } : ConvertConfig).renderBody items
      .standard body = c.renderBody items .standard body := by
  have htags : ({ c with preset := c.preset.withReduction dither edge } :
      ConvertConfig).documentTags body items.count = c.documentTags body items.count := by
    rw [documentTags, documentTags, Preset.tags_withReduction h]
  have hitems (base : Tags) (key : Text) (last : Bool) :
      Renderer.itemTags ⟨items, .standard, c.preset.withReduction dither edge⟩ base key last =
        Renderer.itemTags ⟨items, .standard, c.preset⟩ base key last := by
    have hconvert := Preset.convert_congr (Preset.effective_withReduction h dither edge)
    simp only [Renderer.itemTags, hconvert]
    rfl
  have hrender (base : Tags) (nodes : List Node) :
      Renderer.render ⟨items, .standard, c.preset.withReduction dither edge⟩ base nodes =
        Renderer.render ⟨items, .standard, c.preset⟩ base nodes := by
    refine Renderer.render_congr_items ?_ hitems base nodes
    rfl
  rw [renderBody, renderBody, htags]
  exact congrArg _ (funext fun nodes => hrender _ nodes)

end ConvertConfig

/-- What a document calls unused has no effect on it, nor on its failure. The words of an image are
the same for every band width without bands, every order of bytes in words of one byte, and every
edge in ordered dithering, and they depend on no names, character codes, templates or rows. -/
theorem unusedSettings_noEffect :
    (∀ (m : Type → Type) [Monad m] [FileAccess m] (items : ItemSource) (c : ConvertConfig)
      (dither : Dither) (edge : UInt8), c.preset.prepare.conversion ≠ .monochrome →
        (convert items { c with preset := { c.preset with
          prepare := { c.preset.prepare with dither, edge } } } : m (Except RenderError Text)) =
            convert items c) ∧
    ∀ (p : Preset) (image : Raster),
      (∀ bandWidth, p.prepare.banded = false →
        Pipeline.standard.convert { p with prepare := { p.prepare with bandWidth } } image =
          Pipeline.standard.convert p image) ∧
      (∀ byteOrder, p.layout.blockSize = .bits8 →
        Pipeline.standard.convert { p with layout := { p.layout with byteOrder } } image =
          Pipeline.standard.convert p image) ∧
      (∀ edge, p.prepare.dither = .ordered →
        Pipeline.standard.convert { p with prepare := { p.prepare with edge } } image =
          Pipeline.standard.convert p image) ∧
      ∀ name font templates splitToRows,
        Pipeline.standard.convert
          { p with name, font, templates, layout := { p.layout with splitToRows } } image =
            Pipeline.standard.convert p image := by
  refine ⟨fun m _ _ items c dither edge h => ?_, fun p image => ⟨fun bandWidth h => ?_,
    fun byteOrder h => ?_, fun edge h => ?_, fun name font templates splitToRows => ?_⟩⟩
  · refine congrArg (loadTemplate c.templatePath c.kind >>= ·) (funext fun loaded => ?_)
    cases loaded with
    | error fault => rfl
    | ok body =>
      exact congrArg pure (ConvertConfig.renderBody_withReduction h dither edge items body)
  · exact Preset.convert_congr (by simp [Preset.effective, Preparation.effective, h]) image
  · exact Preset.convert_congr (by simp [Preset.effective, WordLayout.effective, h]) image
  · exact Preset.convert_congr (by simp [Preset.effective, Preparation.effective, h]) image
  · exact Preset.convert_congr rfl image

def grayImage : Raster := ⟨1, 1, #[⟨99, 99, 99, 255⟩], by decide⟩

def grayItems : ItemSource := ⟨[['k']], fun _ => some grayImage⟩

def orderedPreset : Preset := { prepare := { dither := .ordered } }

theorem unusedSettings_noEffect_gray :
    (Preset.grayscale4.prepare.conversion ≠ .monochrome ∧
      (convert grayItems { preset := { Preset.grayscale4 with
        prepare := { Preset.grayscale4.prepare with dither := .diffuse, edge := 7 } } } :
          StateM FileTree (Except RenderError Text)) =
        convert grayItems { preset := Preset.grayscale4 }) ∧
    (orderedPreset.prepare.banded = false ∧
      Pipeline.standard.convert { orderedPreset with
        prepare := { orderedPreset.prepare with bandWidth := 3 } } grayImage =
          Pipeline.standard.convert orderedPreset grayImage) ∧
    (orderedPreset.layout.blockSize = .bits8 ∧
      Pipeline.standard.convert { orderedPreset with
        layout := { orderedPreset.layout with byteOrder := .bigEndian } } grayImage =
          Pipeline.standard.convert orderedPreset grayImage) ∧
    (orderedPreset.prepare.dither = .ordered ∧
      Pipeline.standard.convert { orderedPreset with
        prepare := { orderedPreset.prepare with edge := 7 } } grayImage =
          Pipeline.standard.convert orderedPreset grayImage) := by
  have hgray : Preset.grayscale4.prepare.conversion ≠ .monochrome := by decide
  obtain ⟨hdocument, hdata⟩ := unusedSettings_noEffect
  obtain ⟨hband, horder, hedge, -⟩ := hdata orderedPreset grayImage
  exact ⟨⟨hgray, hdocument _ grayItems { preset := Preset.grayscale4 } .diffuse 7 hgray⟩,
    ⟨rfl, hband 3 rfl⟩, ⟨rfl, horder .bigEndian rfl⟩, ⟨rfl, hedge 7 rfl⟩⟩

end RasterText
