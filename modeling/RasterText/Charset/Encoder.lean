import RasterText.Octets
import RasterText.Charset.Basic
import RasterText.Charset.Japanese
import RasterText.Charset.Korean
import RasterText.Charset.TraditionalChinese
import RasterText.Charset.SimplifiedChinese
set_option autoImplicit false

namespace RasterText

namespace Charset

def byte (n : Nat) : UInt8 := UInt8.ofNat n

def unitBytes (order : ByteOrder) (count n : Nat) : Octets :=
  let low := (List.range count).map fun i => byte (n >>> (8 * i))
  match order with
  | .littleEndian => low
  | .bigEndian => low.reverse

def utf16Units (c : Char) : List Nat :=
  let n := c.toNat
  if n < 0x10000 then [n]
  else [0xd800 + (n - 0x10000) / 0x400, 0xdc00 + (n - 0x10000) % 0x400]

def utf16Bytes (order : ByteOrder) (c : Char) : Octets :=
  (utf16Units c).flatMap (unitBytes order 2)

def utf32Bytes (order : ByteOrder) (c : Char) : Octets := unitBytes order 4 c.toNat

def position? (c : Char) : List String → Option Nat
  | [] => none
  | row :: rest =>
    match row.toList.idxOf? c with
    | some i => some i
    | none => (position? c rest).map (· + row.length)

def lastPosition? (c : Char) : List String → Option Nat
  | [] => none
  | row :: rest =>
    match lastPosition? c rest with
    | some i => some (i + row.length)
    | none => (row.toList.reverse.idxOf? c).map fun i => row.length - 1 - i

def pageBytes? (p : CodePage) (c : Char) : Option Octets :=
  (p.upper.idxOf? c).map fun i => [byte (0x80 + i)]

def userDefinedBytes? (c : Char) : Option Octets :=
  let n := c.toNat
  if 0xf780 ≤ n ∧ n ≤ 0xf7ff then some [byte (n - 0xf700)] else none

def isHalfKatakana (c : Char) : Bool := '\uff61' ≤ c && c ≤ '\uff9f'

/-- The minus sign is written as the full-width hyphen. -/
def foldMinus (c : Char) : Char := if c = '\u2212' then '\uff0d' else c

/-- The numbers from which on the rows repeat characters of the extensions. -/
def repeatedRow : Nat := 88

def extensionStart : Nat := 10716

def shiftJisBytes? (c : Char) : Option Octets :=
  if c = '\x80' then some [0x80]
  else if c = '\xa5' then some [0x5c]
  else if c = '\u203e' then some [0x7e]
  else if isHalfKatakana c then some [byte (c.toNat - 0xfec0)]
  else
    let c := foldMinus c
    let place :=
      (position? c (jisRows.take repeatedRow)).or
        ((position? c jisExtensionRows).map (· + extensionStart))
    place.map fun n =>
      let lead := n / 188
      let trail := n % 188
      [byte (lead + if lead < 0x1f then 0x81 else 0xc1),
        byte (trail + if trail < 0x3f then 0x40 else 0x41)]

def eucJpBytes? (c : Char) : Option Octets :=
  if c = '\xa5' then some [0x5c]
  else if c = '\u203e' then some [0x7e]
  else if isHalfKatakana c then some [0x8e, byte (c.toNat - 0xfec0)]
  else
    (position? (foldMinus c) jisRows).map fun n => [byte (n / 94 + 0xa1), byte (n % 94 + 0xa1)]

def escapeTo (mark : Octets) : Octets := 0x1b :: mark

def toAscii : Octets := escapeTo [0x28, 0x42]

def toRoman : Octets := escapeTo [0x28, 0x4a]

def toDoubleByte : Octets := escapeTo [0x24, 0x42]

def widen (c : Char) : Char :=
  if isHalfKatakana c then
    (fullKatakana.flatMap String.toList).getD (c.toNat - 0xff61) c
  else c

/-- A character by itself selects its set and goes back to ASCII afterwards. -/
def iso2022JpBytes? (c : Char) : Option Octets :=
  if c = '\xa5' then some (toRoman ++ [0x5c] ++ toAscii)
  else if c = '\u203e' then some (toRoman ++ [0x7e] ++ toAscii)
  else
    (position? (widen (foldMinus c)) jisRows).map fun n =>
      toDoubleByte ++ [byte (n / 94 + 0x21), byte (n % 94 + 0x21)] ++ toAscii

def eucKrBytes? (c : Char) : Option Octets :=
  (position? c hangulRows).map fun n => [byte (n / 190 + 0x81), byte (n % 190 + 0x41)]

/-- The characters whose last place counts. -/
def big5Last : List Char := ['═', '╞', '╡', '╪', '十', '卅']

def big5Bytes? (c : Char) : Option Octets :=
  let place := if c ∈ big5Last then lastPosition? c big5Rows else position? c big5Rows
  place.map fun n =>
    let trail := n % 157
    [byte (n / 157 + 0xa1), byte (trail + if trail < 0x3f then 0x40 else 0x62)]

def gbPair (n : Nat) : Octets :=
  let trail := n % 190
  [byte (n / 190 + 0x81), byte (trail + if trail < 0x3f then 0x40 else 0x41)]

/-- The three areas of two bytes for characters for private use. One place in the third area has
another character. -/
def gbPrivate? (n : Nat) : Option Octets :=
  if 0xe000 ≤ n ∧ n ≤ 0xe233 then
    some [byte (0xaa + (n - 0xe000) / 94), byte (0xa1 + (n - 0xe000) % 94)]
  else if 0xe234 ≤ n ∧ n ≤ 0xe4c5 then
    some [byte (0xf8 + (n - 0xe234) / 94), byte (0xa1 + (n - 0xe234) % 94)]
  else if 0xe4c6 ≤ n ∧ n ≤ 0xe765 then
    let trail := (n - 0xe4c6) % 96
    some [byte (0xa1 + (n - 0xe4c6) / 96), byte (trail + if trail < 0x3f then 0x40 else 0x41)]
  else none

def gbDouble? (c : Char) : Option Octets :=
  let n := c.toNat
  match gbPrivate? n with
  | some bytes => some bytes
  | none => ((position? c gbRows).or (gbFormer.lookup n)).map gbPair

def gbNumber (n : Nat) : Nat :=
  if 0x10000 ≤ n then n - 0x10000 + 189000
  else if n = 0xe7c7 then 7457
  else
    let (start, number) := (gbRanges.reverse.find? fun r => r.1 ≤ n).getD (0, 0)
    number + (n - start)

def gbQuadruple (n : Nat) : Octets :=
  [byte (n / 12600 + 0x81), byte (n / 1260 % 10 + 0x30), byte (n / 10 % 126 + 0x81),
    byte (n % 10 + 0x30)]

/-- The character that neither form of two bytes nor of four stands for. -/
def gbMissing : Char := '\ue5e5'

def gbkBytes? (c : Char) : Option Octets :=
  if c = gbMissing then none else if c = '€' then some [0x80] else gbDouble? c

def gb18030Bytes? (c : Char) : Option Octets :=
  if c = gbMissing then none
  else some ((gbDouble? c).getD (gbQuadruple (gbNumber c.toNat)))

def upperBytes? : Charset → Char → Option Octets
  | page p => pageBytes? p
  | userDefined => userDefinedBytes?
  | shiftJis => shiftJisBytes?
  | eucJp => eucJpBytes?
  | iso2022Jp => iso2022JpBytes?
  | eucKr => eucKrBytes?
  | big5 => big5Bytes?
  | gbk => gbkBytes?
  | gb18030 => gb18030Bytes?
  | _ => fun _ => none

/-- The characters of ASCII that would be taken for a part of an escape sequence. -/
def escapeControls : List Char := ['\x0e', '\x0f', '\x1b']

def bytes? (s : Charset) (c : Char) : Option Octets :=
  match s with
  | utf8 => some (String.utf8EncodeChar c)
  | utf16 marked order => some ((if marked then [0xfe, 0xff] else []) ++ utf16Bytes order c)
  | utf32 marked order =>
    some ((if marked then [0x00, 0x00, 0xfe, 0xff] else []) ++ utf32Bytes order c)
  | _ =>
    if c.toNat < 0x80 then
      if s = iso2022Jp ∧ c ∈ escapeControls then none else some [byte c.toNat]
    else s.upperBytes? c

/-- The bytes of a character, or a question mark. -/
def encode (s : Charset) (c : Char) : Octets := (s.bytes? c).getD [0x3f]

end Charset

end RasterText
