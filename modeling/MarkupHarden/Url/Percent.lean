import MarkupHarden.Text.Digits

/-!
# Percent-encoding

A character outside the allowed set of a URL component is written as the bytes
of its UTF-8 form, each as `%` and two hexadecimal digits.  Every set contains
the control characters and all characters beyond ASCII.
-/

namespace MarkupHarden.Url

/-- Control characters and characters beyond ASCII. -/
def isControl (c : Char) : Bool :=
  c.toNat < 0x20 || c.toNat ≥ 0x7F

/-- A set of characters to encode: the controls and the listed ones. -/
abbrev EncodeSet := List Char

def EncodeSet.contains (set : EncodeSet) (c : Char) : Bool :=
  isControl c || set.elem c

def fragmentSet : EncodeSet := [' ', '"', '<', '>', '\x60']

def pathSet : EncodeSet := fragmentSet ++ ['#', '?', '\x7b', '\x7d']

def userInfoSet : EncodeSet :=
  pathSet ++ ['/', ':', ';', '=', '@', '[', '\\', ']', '^', '|']

def querySet : EncodeSet := [' ', '"', '#', '<', '>']

def specialQuerySet : EncodeSet := querySet ++ ['\x27']

def encodeByte (byte : UInt8) : List Char :=
  ['%', Text.upperHexDigit (byte.toNat / 16),
    Text.upperHexDigit (byte.toNat % 16)]

def encodeChar (set : EncodeSet) (c : Char) : List Char :=
  if set.contains c then (String.utf8EncodeChar c).flatMap encodeByte else [c]

/-- The characters with those of the set encoded. -/
def percentEncode (set : EncodeSet) (chars : List Char) : List Char :=
  chars.flatMap (encodeChar set)

/-- The bytes that a text stands for; `%` without two digits is itself. -/
def percentDecode : List Char → List UInt8
  | [] => []
  | '%' :: high :: low :: rest =>
      match Text.numberOf? 16 [high, low] with
      | some byte => UInt8.ofNat byte :: percentDecode rest
      | none =>
          String.utf8EncodeChar '%' ++ percentDecode (high :: low :: rest)
  | c :: rest => String.utf8EncodeChar c ++ percentDecode rest

end MarkupHarden.Url
