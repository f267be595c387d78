import RasterText.Template.Tree
import RasterText.Report.Drawing
set_option autoImplicit false

namespace RasterText

/-- The report on a template with the given name. The offsets of the markers count bytes, and they
are taken for numbers of characters. -/
def NestedBlock.report (e : NestedBlock) (source name : Text) : Text :=
  let excerpt := Excerpt.ofText source [
    ⟨e.outer.start, e.outer.stop, "outer block opens here".toList, .blue⟩,
    ⟨e.inner.start, e.inner.stop, "same block opened again before it ends".toList, .red⟩]
  Paint.red.apply "Error:".toList ++ " block '".toList ++ e.name ++
    "' cannot contain itself\n".toList ++ excerpt.text name e.inner.start

end RasterText
