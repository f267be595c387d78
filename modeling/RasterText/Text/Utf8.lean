import RasterText.Text.Basic
import RasterText.Octets
set_option autoImplicit false

namespace RasterText

def Text.utf8 (t : Text) : Octets := t.flatMap String.utf8EncodeChar

def Text.ofUtf8? (bytes : Octets) : Option Text :=
  (String.fromUTF8? ⟨bytes.toArray⟩).map String.toList

end RasterText
