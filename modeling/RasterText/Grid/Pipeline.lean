import RasterText.Grid.Reduction
import RasterText.Grid.Scan
import RasterText.Grid.Matrix
import RasterText.Grid.Packing
import RasterText.Grid.RunLength
import RasterText.Grid.Literal
set_option autoImplicit false

namespace RasterText

inductive PipelineError where
  | emptyMask
  /-- A stage that is not the standard one has failed. -/
  | stage (reason : Text)
  deriving DecidableEq, Repr

def PipelineError.message : PipelineError → Text
  | emptyMask => "matrix mask selects no bits".toList
  | stage reason => "pixel pipeline failed: ".toList ++ reason

structure Pipeline where
  prepare : Preset → Raster → Except PipelineError Raster
  extract : Preset → Raster → Except PipelineError Grid
  process : Preset → Grid → Except PipelineError Grid
  pack : Preset → Grid → Except PipelineError Grid
  reorder : Preset → Grid → Except PipelineError Grid
  compress : Preset → Grid → Except PipelineError Grid
  format : Preset → Text → Grid → Text

namespace Pipeline

def convert (s : Pipeline) (p : Preset) (image : Raster) : Except PipelineError Grid := do
  let prepared ← s.prepare p image
  let extracted ← s.extract p prepared
  let processed ← s.process p extracted
  let packed ← s.pack p processed
  let reordered ← s.reorder p packed
  s.compress p reordered

def standard : Pipeline where
  prepare p image := .ok (image.prepare p.prepare)
  extract p image := .ok (image.scan p.prepare)
  process p g := .ok (g.process p.matrix)
  pack p g :=
    if p.matrix.used = 0 then .error .emptyMask
    else .ok (g.pack p.matrix.used p.layout.blockSize)
  reorder p g := .ok (g.reorder p.layout.blockSize p.layout.byteOrder)
  compress p g := .ok (if p.layout.runLength then g.compress else g)
  format p lead g := g.format p.layout.blockSize p.layout.splitToRows lead

end Pipeline

end RasterText
