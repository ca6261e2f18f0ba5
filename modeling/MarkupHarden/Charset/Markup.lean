import MarkupHarden.Charset.Decode

/-!
# Decoding markup

The coding of markup comes from the first of these that speaks: a byte order
mark, the character set that the caller names, and a declaration `charset=`
near the start of the markup.  Without any of them it is UTF-8.
-/

namespace MarkupHarden.Charset

/-- How many bytes are searched for a declaration. -/
def searchedBytes : Nat := 8192

def declarationKey : List Char := "charset=".toList

/-- Whether a character ends a label without quotes. -/
def endsLabel (c : Char) : Bool :=
  Text.isBlank c || c = '"' || c = '\x27' || c = ';' || c = '>' || c = '/'

/-- The label at the start of the characters, in quotes or bare. -/
def readLabel? (chars : List Char) : Option (List Char) :=
  let label? :=
    match chars.dropWhile Text.isBlank with
    | [] => none
    | c :: rest =>
        if c = '"' || c = '\x27' then
          if rest.contains c then
            some (Text.trimBoth Text.isBlank (rest.takeWhile (· ≠ c)))
          else none
        else some ((c :: rest).takeWhile (!endsLabel ·))
  label?.filter (!·.isEmpty)

/-- The first declared label; declarations without one do not count. -/
def findLabel? : List Char → Option (List Char)
  | [] => none
  | c :: rest =>
      let here :=
        if Text.startsWithIgnoringCase declarationKey (c :: rest) then
          readLabel? ((c :: rest).drop declarationKey.length)
        else none
      here.or (findLabel? rest)

/-- The character set that the markup declares. -/
def declared? (bytes : List UInt8) : Option Charset :=
  (findLabel? (decodeUtf8 (bytes.take searchedBytes))).bind fun label =>
    ofLabel? (String.ofList label)

/-- The text of markup, for a caller that may name its character set. -/
def decodeMarkup (bytes : List UInt8) (named : Option Charset) : String :=
  String.ofList
    (match byteOrderMark? bytes with
      | some (coding, rest) => coding.decode rest
      | none =>
          match named.or (declared? bytes) with
          | some charset => charset.coding.decode bytes
          | none => decodeUtf8 bytes)

end MarkupHarden.Charset
