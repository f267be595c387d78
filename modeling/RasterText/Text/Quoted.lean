import RasterText.Text.Printable
import RasterText.Text.Hexadecimal
set_option autoImplicit false

namespace RasterText

def quotedChar (c : Char) : Text :=
  match c with
  | '\x00' => "\\0".toList
  | '\t' => "\\t".toList
  | '\n' => "\\n".toList
  | '\r' => "\\r".toList
  | '"' => "\\\"".toList
  | '\\' => "\\\\".toList
  | c => if isShown c then [c] else "\\u\x7b".toList ++ hexNumeral c.toNat ++ "\x7d".toList

def quoted (t : Text) : Text := ['"'] ++ t.flatMap quotedChar ++ ['"']

end RasterText
