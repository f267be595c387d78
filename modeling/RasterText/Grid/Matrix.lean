import RasterText.Preset.Basic
import RasterText.Grid.Basic
set_option autoImplicit false

/-!
The bit matrix. Every operation masks a word and shifts it, and the results are joined; without
operations the word stays as it is. A shift by the width of a word or more leaves nothing.
-/

namespace RasterText

def Operation.apply (op : Operation) (word : UInt32) : UInt32 :=
  let masked := word &&& op.mask
  if 32 ≤ op.shift then 0
  else if op.left then masked <<< UInt32.ofNat op.shift
  else masked >>> UInt32.ofNat op.shift

def Matrix.apply (m : Matrix) (word : UInt32) : UInt32 :=
  let joined :=
    match m.operations with
    | [] => word
    | op :: ops => (op :: ops).foldl (fun acc o => acc ||| o.apply word) 0
  joined &&& m.andMask ||| m.orMask

def Grid.process (m : Matrix) (g : Grid) : Grid := { g with words := g.words.map m.apply }

end RasterText
