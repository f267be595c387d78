import RasterText.Template.Tree
import RasterText.Tags
set_option autoImplicit false

namespace RasterText

mutual

def Node.substitute (lookup : Text → Option Text) : Node → Text
  | .text value _ => value
  | .tag name _ => resolve lookup name
  | .block name body _ =>
    resolve lookup (Token.startKeyword name) ++ substitute lookup body ++
      resolve lookup (Token.endKeyword name)
  | .unclosed name _ => resolve lookup (Token.startKeyword name)
  | .strayEnd name _ => resolve lookup (Token.endKeyword name)

def substitute (lookup : Text → Option Text) : List Node → Text
  | [] => []
  | node :: rest => node.substitute lookup ++ substitute lookup rest

end

end RasterText
