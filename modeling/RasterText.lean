import RasterText.Charset.Basic
import RasterText.Charset.Code
import RasterText.Charset.CodePage
import RasterText.Charset.Encoder
import RasterText.Charset.Japanese
import RasterText.Charset.Korean
import RasterText.Charset.SimplifiedChinese
import RasterText.Charset.TraditionalChinese
import RasterText.CommandLine.Arguments
import RasterText.CommandLine.Program
import RasterText.CommandLine.Settings
import RasterText.Document.Convert
import RasterText.Document.Render
import RasterText.Document.Template
import RasterText.Files.Access
import RasterText.Files.Fault
import RasterText.Files.Name
import RasterText.Files.Tree
import RasterText.Grid.Basic
import RasterText.Grid.Literal
import RasterText.Grid.Matrix
import RasterText.Grid.Packing
import RasterText.Grid.Pipeline
import RasterText.Grid.Reduction
import RasterText.Grid.RunLength
import RasterText.Grid.Scan
import RasterText.Items.Collection
import RasterText.Items.Key
import RasterText.Items.Loading
import RasterText.Items.Source
import RasterText.Main
import RasterText.Number.Binary64
import RasterText.Octets
import RasterText.Preset.Basic
import RasterText.Preset.Builtin
import RasterText.Preset.Description
import RasterText.Preset.FieldError
import RasterText.Preset.Loading
import RasterText.Preset.Reading
import RasterText.Preset.Section
import RasterText.Proofs.Charset.Code
import RasterText.Proofs.Charset.Distinct
import RasterText.Proofs.Charset.Label
import RasterText.Proofs.CommandLine.Run
import RasterText.Proofs.Document.Constants
import RasterText.Proofs.Document.Conversion
import RasterText.Proofs.Document.DataLength
import RasterText.Proofs.Document.DefinedTags
import RasterText.Proofs.Document.Failure
import RasterText.Proofs.Document.Identifiers
import RasterText.Proofs.Document.ItemCopies
import RasterText.Proofs.Document.ItemTags
import RasterText.Proofs.Document.TagUpdates
import RasterText.Proofs.Document.TagUse
import RasterText.Proofs.Document.TextRendering
import RasterText.Proofs.Document.UnusedSettings
import RasterText.Proofs.Files.Name
import RasterText.Proofs.Files.Reading
import RasterText.Proofs.Files.Tree
import RasterText.Proofs.Grid.BitWriter
import RasterText.Proofs.Grid.Bits
import RasterText.Proofs.Grid.ByteOrder
import RasterText.Proofs.Grid.CanonicalPackets
import RasterText.Proofs.Grid.CodeLength
import RasterText.Proofs.Grid.Diffusion
import RasterText.Proofs.Grid.DiffusionBounds
import RasterText.Proofs.Grid.Inversion
import RasterText.Proofs.Grid.Lines
import RasterText.Proofs.Grid.LiteralRows
import RasterText.Proofs.Grid.Literals
import RasterText.Proofs.Grid.MatrixBits
import RasterText.Proofs.Grid.PackedBits
import RasterText.Proofs.Grid.Packing
import RasterText.Proofs.Grid.PixelFormats
import RasterText.Proofs.Grid.Recovery
import RasterText.Proofs.Grid.Reduction
import RasterText.Proofs.Grid.Rows
import RasterText.Proofs.Grid.RunLength
import RasterText.Proofs.Grid.ScanOrder
import RasterText.Proofs.Grid.Shape
import RasterText.Proofs.Items.Collection
import RasterText.Proofs.Items.Insertion
import RasterText.Proofs.Items.Key
import RasterText.Proofs.Preset.Agreement
import RasterText.Proofs.Preset.Demand
import RasterText.Proofs.Preset.FieldOrder
import RasterText.Proofs.Report.Location
import RasterText.Proofs.Template.BuiltinTree
import RasterText.Proofs.Template.DataIndent
import RasterText.Proofs.Template.Grammar
import RasterText.Proofs.Template.Interior
import RasterText.Proofs.Template.Lexing
import RasterText.Proofs.Template.Marker
import RasterText.Proofs.Template.Nesting
import RasterText.Proofs.Template.NormalForm
import RasterText.Proofs.Template.Outline
import RasterText.Proofs.Template.Parsing
import RasterText.Proofs.Template.Places
import RasterText.Proofs.Template.Tokenization
import RasterText.Proofs.Template.Writing
import RasterText.Proofs.Text.Lines
import RasterText.Proofs.Text.Utf8
import RasterText.Proofs.Toml.Dates
import RasterText.Proofs.Toml.DistinctKeys
import RasterText.Raster.Basic
import RasterText.Raster.Bitmap
import RasterText.Raster.Checksum
import RasterText.Raster.Chunk
import RasterText.Raster.PlainFile
import RasterText.Raster.Png
import RasterText.Raster.Preamble
import RasterText.Raster.Samples
import RasterText.Raster.Stored
import RasterText.Report.Drawing
import RasterText.Report.Excerpt
import RasterText.Report.Label
import RasterText.Report.Margin
import RasterText.Report.Nesting
import RasterText.Report.Paint
import RasterText.Tags
import RasterText.Template.Builtin
import RasterText.Template.Substitution
import RasterText.Template.Token
import RasterText.Template.Tree
import RasterText.Text.Basic
import RasterText.Text.Blank
import RasterText.Text.Hexadecimal
import RasterText.Text.Lines
import RasterText.Text.Printable
import RasterText.Text.Quoted
import RasterText.Text.Terminal
import RasterText.Text.Utf8
import RasterText.Text.Width
import RasterText.Toml.Assembly
import RasterText.Toml.Dates
import RasterText.Toml.Document
import RasterText.Toml.Quoted
import RasterText.Toml.Scalar
import RasterText.Toml.Value
