import RasterText.Text.Basic
set_option autoImplicit false

namespace RasterText

inductive Paint where
  | plain
  | bold
  | red
  | yellow
  | blue
  | fixed (number : Nat)
  deriving DecidableEq, Repr

namespace Paint

def parameters : Paint → Text
  | plain => []
  | bold => "1".toList
  | red => "31".toList
  | yellow => "33".toList
  | blue => "34".toList
  | fixed number => "38;5;".toList ++ decimal number

/-- The text in a colour, which is reset afterwards. -/
def apply (paint : Paint) (t : Text) : Text :=
  match paint with
  | plain => t
  | paint => "\x1b[".toList ++ paint.parameters ++ ['m'] ++ t ++ "\x1b[0m".toList

def char (paint : Paint) (c : Char) : Text := paint.apply [c]

def margin : Paint := fixed 246

def skippedMargin : Paint := fixed 240

def unimportant : Paint := fixed 249

end Paint

end RasterText
