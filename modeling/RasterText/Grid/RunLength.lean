import RasterText.Grid.Basic
set_option autoImplicit false

/-!
Run-length coding. Two to 127 equal words become a count and the word; up to 127 other words become
their number, marked by bit 7, and the words themselves.
-/

namespace RasterText

/-- What one control word stands for. -/
inductive Packet where
  | run (count : Nat) (word : UInt32)
  | literal (words : List UInt32)
  deriving DecidableEq, Repr

def packetLimit : Nat := 127

namespace Packet

def expand : Packet → List UInt32
  | run count word => List.replicate count word
  | literal words => words

/-- The control word and what follows it. -/
def serialize : Packet → List UInt32
  | run count word => [UInt32.ofNat count, word]
  | literal words => UInt32.ofNat (0x80 + words.length) :: words

end Packet

def runLength (word : UInt32) : Nat → List UInt32 → Nat
  | 0, _ => 0
  | _, [] => 0
  | limit + 1, w :: rest => if w = word then runLength word limit rest + 1 else 0

/-- The words at the front that come before two equal ones, up to `limit`. -/
def singles : Nat → List UInt32 → List UInt32
  | 0, _ => []
  | _, [] => []
  | _ + 1, [w] => [w]
  | limit + 1, w :: v :: rest => if w = v then [] else w :: singles limit (v :: rest)

/-- The packets of a list of words, each as long as it can be. -/
def packets : List UInt32 → List Packet
  | [] => []
  | w :: rest =>
    let more := runLength w (packetLimit - 1) rest
    if more = 0 then
      let others := singles (packetLimit - 1) rest
      .literal (w :: others) :: packets (rest.drop others.length)
    else .run (more + 1) w :: packets (rest.drop more)
termination_by l => l.length
decreasing_by
  · simp only [List.length_drop, List.length_cons]; omega
  · simp only [List.length_drop, List.length_cons]; omega

def compressWords (words : List UInt32) : List UInt32 := (packets words).flatMap Packet.serialize

/-- Codes all words, as a single row. -/
def Grid.compress (g : Grid) : Grid where
  words := compressWords g.words
  width := UInt32.ofNat (compressWords g.words).length
  height := if g.words = [] then 0 else 1

end RasterText
