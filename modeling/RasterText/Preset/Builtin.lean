import RasterText.Preset.Basic
set_option autoImplicit false

namespace RasterText.Preset

private def packed (name : Text) (conversion : Conversion) (used : UInt32)
    (operations : List Operation) (blockSize : BlockSize) : Preset where
  name := name
  prepare := { conversion := conversion }
  matrix := { used := used, operations := operations }
  layout := { blockSize := blockSize, splitToRows := true }

def monochrome : Preset := {}

def grayscale4 : Preset :=
  packed "grayscale_4".toList .grayscale 0xf [{ mask := 0xf0, shift := 4 }] .bits8

def grayscale8 : Preset :=
  packed "grayscale_8".toList .grayscale 0xff [{ mask := 0xff }] .bits8

def colorR5G6B5 : Preset :=
  packed "color_r5g6b5".toList .color 0xffff
    [{ mask := 0xf80000, shift := 8 }, { mask := 0xfc00, shift := 5 }, { mask := 0xf8, shift := 3 }]
    .bits16

def colorR8G8B8 : Preset :=
  packed "color_r8g8b8".toList .color 0xffffff [{ mask := 0xffffff }] .bits24

def builtins : List Preset := [monochrome, grayscale4, grayscale8, colorR5G6B5, colorR8G8B8]

def builtinNames : List Text := builtins.map Preset.name

def builtin? (name : Text) : Option Preset := builtins.find? fun p => p.name == name

end RasterText.Preset
