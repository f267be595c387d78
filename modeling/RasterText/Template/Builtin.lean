import RasterText.Text.Basic
set_option autoImplicit false

namespace RasterText

inductive DocumentKind where
  | image
  | font
  deriving DecidableEq, Repr

def imageTemplateLines : List String := [
  "/*******************************************************************************",
  "* image",
  "* filename: @templateFile@",
  "* name: @documentName@",
  "*",
  "* preset name: @preset@",
  "* data block size: @dataBlockSize@ bit(s), uint@dataBlockSize@_t",
  "* RLE compression enabled: @rle@",
  "* conversion type: @convType@, @monoType@ @edge@",
  "* bits per pixel: @bpp@",
  "*",
  "* preprocess:",
  "*  main scan direction: @scanMain@",
  "*  line scan direction: @scanSub@",
  "*  inverse: @inverse@",
  "*  bands: @bands@, width @bandWidth@",
  "*  bytes order: @bytesOrder@",
  "*  split to rows: @splitToRows@",
  "*******************************************************************************/",
  "",
  "#include <stdint.h>",
  "",
  "typedef struct \x7b",
  "    const uint@dataBlockSize@_t *data;",
  "    uint16_t width;",
  "    uint16_t height;",
  "    uint8_t dataSize;",
  "\x7d tImage;",
  "",
  "@start_block_images_table@",
  "static const uint@dataBlockSize@_t image_data_@documentName_ws@[@blocksCount@] = \x7b",
  "    @imageData@",
  "\x7d;",
  "const tImage @documentName_ws@ = \x7b image_data_@documentName_ws@,",
  "    @width@, @height@, @dataBlockSize@ \x7d;",
  "@end_block_images_table@"]

def fontTemplateLines : List String := [
  "/*******************************************************************************",
  "* font",
  "* filename: @templateFile@",
  "* name: @documentName@",
  "* characters: @imagesCount@",
  "*",
  "* preset name: @preset@",
  "* data block size: @dataBlockSize@ bit(s), uint@dataBlockSize@_t",
  "* RLE compression enabled: @rle@",
  "* conversion type: @convType@, @monoType@ @edge@",
  "* bits per pixel: @bpp@",
  "* encoding: @encoding@, bom: @bom@",
  "*",
  "* preprocess:",
  "*  main scan direction: @scanMain@",
  "*  line scan direction: @scanSub@",
  "*  inverse: @inverse@",
  "*  bands: @bands@, width @bandWidth@",
  "*  bytes order: @bytesOrder@",
  "*  split to rows: @splitToRows@",
  "*******************************************************************************/",
  "",
  "#include <stdint.h>",
  "",
  "typedef struct \x7b",
  "    const uint@dataBlockSize@_t *data;",
  "    uint16_t width;",
  "    uint16_t height;",
  "    uint8_t dataSize;",
  "\x7d tImage;",
  "",
  "typedef struct \x7b",
  "    long int code;",
  "    const tImage *image;",
  "\x7d tChar;",
  "",
  "typedef struct \x7b",
  "    int length;",
  "    const tChar *chars;",
  "\x7d tFont;",
  "",
  "@start_block_images_table@",
  "static const uint@dataBlockSize@_t image_data_@documentName_ws@_0x@charCode@[@blocksCount@] = \x7b",
  "    @imageData@",
  "\x7d;",
  "static const tImage @documentName_ws@_0x@charCode@ = \x7b image_data_@documentName_ws@_0x@charCode@,",
  "    @width@, @height@, @dataBlockSize@ \x7d;",
  "@end_block_images_table@",
  "",
  "static const tChar @documentName_ws@_array[] = \x7b@start_block_images_table@",
  "    \x7b0x@charCode@, &@documentName_ws@_0x@charCode@\x7d@comma@ // '@charText@'",
  "@end_block_images_table@",
  "\x7d;",
  "",
  "const tFont @documentName_ws@ = \x7b @imagesCount@, @documentName_ws@_array \x7d;"]

def textOfLines (lines : List String) : Text := lines.flatMap fun line => line.toList ++ ['\n']

namespace DocumentKind

def builtinTemplate : DocumentKind → Text
  | image => textOfLines imageTemplateLines
  | font => textOfLines fontTemplateLines

/-- What such a template is called in a document. -/
def builtinOrigin : DocumentKind → Text
  | image => "builtin:image".toList
  | font => "builtin:font".toList

end DocumentKind

end RasterText
