import MarkupHarden.Charset.Basic

/-!
# Decoding bytes

Bytes become text in one pass.  What does not fit the coding becomes the
replacement character, once for each maximal piece of a broken sequence.
-/

namespace MarkupHarden.Charset

/-- What stands for bytes that are no character. -/
def replacementChar : Char := '\ufffd'

/-! ### UTF-8 -/

def isTail (byte : UInt8) : Bool :=
  0x80 ≤ byte && byte ≤ 0xBF

/-- How many bytes follow a first byte, and the range of the first of them.
The range shuts out overlong forms, surrogates and numbers that are no code
points. -/
def tailsOf? (first : UInt8) : Option (Nat × UInt8 × UInt8) :=
  if 0xC2 ≤ first && first ≤ 0xDF then some (1, 0x80, 0xBF)
  else if first = 0xE0 then some (2, 0xA0, 0xBF)
  else if first = 0xED then some (2, 0x80, 0x9F)
  else if 0xE1 ≤ first && first ≤ 0xEF then some (2, 0x80, 0xBF)
  else if first = 0xF0 then some (3, 0x90, 0xBF)
  else if 0xF1 ≤ first && first ≤ 0xF3 then some (3, 0x80, 0xBF)
  else if first = 0xF4 then some (3, 0x80, 0x8F)
  else none

/-- The value bits of a first byte with the given number of followers. -/
def leadBits (first : UInt8) (tails : Nat) : Nat :=
  first.toNat % (1 <<< (6 - tails))

/-- Reads the bytes that follow a first one: the code point, or nothing when one
is missing, and what is left.  A byte that does not fit is left. -/
def readTails : Nat → Nat → List UInt8 → Option Nat × List UInt8
  | 0, code, bytes => (some code, bytes)
  | _ + 1, _, [] => (none, [])
  | tails + 1, code, byte :: rest =>
      if isTail byte then readTails tails (code * 64 + byte.toNat % 64) rest
      else (none, byte :: rest)

theorem readTails_length (tails code : Nat) (bytes : List UInt8) :
    (readTails tails code bytes).2.length ≤ bytes.length := by
  fun_induction readTails tails code bytes <;> grind

def decodeUtf8 : List UInt8 → List Char
  | [] => []
  | first :: rest =>
      if first < 0x80 then Char.ofNat first.toNat :: decodeUtf8 rest
      else
        match tailsOf? first with
        | none => replacementChar :: decodeUtf8 rest
        | some (tails, low, high) =>
            if rest.head?.any fun byte => low ≤ byte && byte ≤ high then
              let read := readTails tails (leadBits first tails) rest
              have := readTails_length tails (leadBits first tails) rest
              ((read.1.map Char.ofNat).getD replacementChar) ::
                decodeUtf8 read.2
            else replacementChar :: decodeUtf8 rest
termination_by bytes => bytes.length

/-! ### UTF-16 -/

def unitOf (order : ByteOrder) (first second : UInt8) : Nat :=
  match order with
  | .big => first.toNat * 256 + second.toNat
  | .little => second.toNat * 256 + first.toNat

/-- The units of a byte sequence; the flag tells whether a byte is left. -/
def unitsOf (order : ByteOrder) : List UInt8 → List Nat × Bool
  | [] => ([], false)
  | [_] => ([], true)
  | first :: second :: rest =>
      let (units, odd) := unitsOf order rest
      (unitOf order first second :: units, odd)

/-- Combines surrogates.  One without its partner is replaced, together with a
byte that is left behind it at the end. -/
def decodeUnits (odd : Bool) : List Nat → List Char
  | [] => if odd then [replacementChar] else []
  | unit :: rest =>
      if 0xD800 ≤ unit ∧ unit < 0xDC00 then
        match rest with
        | [] => [replacementChar]
        | low :: rest =>
            if 0xDC00 ≤ low ∧ low < 0xE000 then
              Char.ofNat
                  (0x10000 + (unit - 0xD800) * 0x400 + (low - 0xDC00)) ::
                decodeUnits odd rest
            else replacementChar :: decodeUnits odd (low :: rest)
      else if 0xDC00 ≤ unit ∧ unit < 0xE000 then
        replacementChar :: decodeUnits odd rest
      else Char.ofNat unit :: decodeUnits odd rest

def decodeUtf16 (order : ByteOrder) (bytes : List UInt8) : List Char :=
  let (units, odd) := unitsOf order bytes
  decodeUnits odd units

/-! ### One byte per character -/

/-- The character of a byte from 80 on in a table. -/
def upperChar (table : Array Text.TableEntry) (byte : UInt8) : Char :=
  match Text.lookUp? table byte.toNat with
  | some { first, note := '>' :: code, .. } =>
      Char.ofNat ((Text.TableEntry.readCode code).1 + (byte.toNat - first))
  | _ => replacementChar

/-- Reads ASCII bytes as they are and others by a function. -/
def decodeBytes (upper : UInt8 → Char) (bytes : List UInt8) : List Char :=
  bytes.map fun byte =>
    if byte < 0x80 then Char.ofNat byte.toNat else upper byte

/-! ### Any coding -/

/-- The characters of bytes without a byte order mark. -/
def Coding.decode (coding : Coding) (bytes : List UInt8) : List Char :=
  match coding with
  | .utf8 => decodeUtf8 bytes
  | .utf16 order => decodeUtf16 order bytes
  | .replacement => if bytes.isEmpty then [] else [replacementChar]
  | .userDefined =>
      decodeBytes (fun byte => Char.ofNat (0xF700 + byte.toNat)) bytes
  | .singleByte table => decodeBytes (upperChar table) bytes
  | .nameOnly => decodeBytes (fun _ => replacementChar) bytes

/-- The coding that a byte order mark announces, and what follows it. -/
def byteOrderMark? : List UInt8 → Option (Coding × List UInt8)
  | 0xEF :: 0xBB :: 0xBF :: rest => some (.utf8, rest)
  | 0xFE :: 0xFF :: rest => some (.utf16 .big, rest)
  | 0xFF :: 0xFE :: rest => some (.utf16 .little, rest)
  | _ => none

end MarkupHarden.Charset
