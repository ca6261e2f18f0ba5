import MarkupHarden.Url.Domain
import MarkupHarden.Url.Percent

/-!
# Hosts

A host is a name, an IPv4 address or an IPv6 address.  Numbers that look like
IPv4 addresses are read as such in all their spellings; IPv6 addresses are
written with their longest run of zeros left out.
-/

namespace MarkupHarden.Url

/-- The host of a URL; the empty name stands for no host. -/
inductive Host where
  | named (name : String)
  | ipv4 (address : Nat)
  | ipv6 (pieces : List Nat)
  deriving DecidableEq, Repr

namespace Host

/-! ### IPv4 -/

/-- An IPv4 number in decimal, octal (`0`) or hexadecimal (`0x`).  A prefix
without digits stands for zero. -/
def ipv4Number? : List Char → Option Nat
  | '0' :: 'x' :: digits | '0' :: 'X' :: digits =>
      if digits.isEmpty then some 0 else Text.numberOf? 16 digits
  | ['0'] => some 0
  | '0' :: digits => Text.numberOf? 8 digits
  | digits => Text.numberOf? 10 digits

/-- Whether the last label of a domain name is a number, so that the whole name
must be an IPv4 address. -/
def endsInNumber (domain : List Char) : Bool :=
  let last? :=
    match (splitEvery (· = '.') domain).reverse with
    | [] :: rest => rest.head?
    | last :: _ => some last
    | [] => none
  last?.any fun last =>
    (!last.isEmpty && last.all Char.isDigit) || (ipv4Number? last).isSome

/-- Reads up to four numbers; the last one fills the bytes that are left. -/
def parseIpv4 (domain : List Char) : Except ParseFault Host :=
  let parts :=
    match (splitEvery (· = '.') domain).reverse with
    | [] :: rest => rest.reverse
    | _ => splitEvery (· = '.') domain
  if parts.length > 4 then .error .invalidIpv4
  else
    match (parts.mapM ipv4Number?).map List.reverse with
    | some (last :: before) =>
        let before := before.reverse
        if last ≥ Nat.pow 256 (4 - before.length) || before.any (· > 255) then
          .error .invalidIpv4
        else
          let high :=
            before.foldl (fun address number => address * 256 + number) 0
          .ok (.ipv4 (high * Nat.pow 256 (4 - before.length) + last))
    | _ => .error .invalidIpv4

def ipv4Text (address : Nat) : String :=
  ".".intercalate
    ([3, 2, 1, 0].map fun place => toString (address / Nat.pow 256 place % 256))

/-! ### IPv6 -/

/-- A byte in decimal without a leading zero. -/
def decimalByte? (chars : List Char) : Option Nat :=
  if chars.length > 1 && chars.head? = some '0' then none
  else (Text.numberOf? 10 chars).filter (· < 256)

/-- The two pieces written as an IPv4 address at the end. -/
def ipv4Pieces? (chars : List Char) : Option (List Nat) :=
  match (splitEvery (· = '.') chars).mapM decimalByte? with
  | some [a, b, c, d] => some [a * 256 + b, c * 256 + d]
  | _ => none

/-- Pieces read so far, and how many of them stand before the run of zeros that
`::` leaves out. -/
structure Ipv6Pieces where
  pieces : List Nat := []
  gap : Option Nat := none

namespace Ipv6Pieces

def push (read : Ipv6Pieces) (piece : Nat) : Ipv6Pieces :=
  { read with pieces := read.pieces ++ [piece] }

/-- Notes that a run of zeros, one of which is kept, ends here. -/
def skip (read : Ipv6Pieces) : Ipv6Pieces where
  pieces := read.pieces ++ [0]
  gap := some (read.pieces.length + 1)

/-- The eight pieces. -/
def finish? (read : Ipv6Pieces) : Option (List Nat) :=
  match read.gap with
  | none => if read.pieces.length = 8 then some read.pieces else none
  | some gap =>
      if read.pieces.length > 8 then none
      else
        some (read.pieces.take gap ++
          List.replicate (8 - read.pieces.length) 0 ++ read.pieces.drop gap)

end Ipv6Pieces

/-- The hexadecimal digits at the start, at most four. -/
def leadingHex (chars : List Char) : List Char :=
  (chars.take 4).takeWhile fun c => (Text.digitValue? 16 c).isSome

/-- Reads the pieces behind those read so far, in at most `limit` steps. -/
def readIpv6? : Nat → Ipv6Pieces → List Char → Option (List Nat)
  | _, read, [] => read.finish?
  | 0, _, _ => none
  | limit + 1, read, ':' :: rest =>
      if read.pieces.length ≥ 8 || read.gap.isSome then none
      else readIpv6? limit read.skip rest
  | limit + 1, read, chars =>
      let digits := leadingHex chars
      if read.pieces.length ≥ 8 then none
      else
        match Text.numberOf? 16 digits with
        | none => none
        | some piece =>
            match chars.drop digits.length with
            | [] => (read.push piece).finish?
            | ':' :: rest =>
                if rest.isEmpty then none
                else readIpv6? limit (read.push piece) rest
            | '.' :: _ =>
                if read.pieces.length > 6 then none
                else
                  (ipv4Pieces? chars).bind fun pieces =>
                    { read with pieces := read.pieces ++ pieces }.finish?
            | _ => none

/-- Reads an IPv6 address without its brackets. -/
def parseIpv6 (chars : List Char) : Except ParseFault Host :=
  let pieces? :=
    match chars with
    | ':' :: ':' :: rest =>
        readIpv6? chars.length ({} : Ipv6Pieces).skip rest
    | ':' :: _ => none
    | _ => readIpv6? chars.length {} chars
  match pieces? with
  | some pieces => .ok (.ipv6 pieces)
  | none => .error .invalidIpv6

/-- The length of the run of zeros at the start. -/
def zeroRun (pieces : List Nat) : Nat :=
  (pieces.takeWhile (· = 0)).length

/-- The first of the longest runs of zeros: where it starts and how long it
is. -/
def longestZeroRun (pieces : List Nat) : Nat × Nat :=
  (List.range pieces.length).foldl
    (fun best start =>
      let run := zeroRun (pieces.drop start)
      if run > best.2 then (start, run) else best)
    (0, 0)

def piecesText (pieces : List Nat) : String :=
  ":".intercalate
    (pieces.map fun piece => String.ofList (Text.digitsOf 16 piece))

/-- An IPv6 address; a run of two or more zeros is left out. -/
def ipv6Text (pieces : List Nat) : String :=
  let (start, length) := longestZeroRun pieces
  if length < 2 then piecesText pieces
  else
    piecesText (pieces.take start) ++ "::" ++
      piecesText (pieces.drop (start + length))

/-! ### Reading and writing hosts -/

/-- What brackets around an IPv6 address enclose. -/
def bracketed (chars : List Char) : Except ParseFault Host :=
  if chars.getLast? = some ']' then parseIpv6 chars.dropLast
  else .error .invalidIpv6

/-- The host of a special URL. -/
def parse (chars : List Char) : Except ParseFault Host :=
  match chars with
  | '[' :: rest => bracketed rest
  | _ =>
      match String.fromUTF8? ⟨(percentDecode chars).toArray⟩ with
      | none => .error .invalidDomainName
      | some domain =>
          match domainToAscii domain.toList with
          | .error fault => .error fault
          | .ok [] => .error .emptyHost
          | .ok domain =>
              if endsInNumber domain then parseIpv4 domain
              else .ok (.named (String.ofList domain))

/-- Characters that no opaque host may contain. -/
def isForbiddenInHost (c : Char) : Bool :=
  "\x00\t\n\x0d #/:<>?@[\\]^|".toList.contains c

/-- The host of a URL that is not special: any text, with only control
characters encoded. -/
def parseOpaque (chars : List Char) : Except ParseFault Host :=
  match chars with
  | '[' :: rest => bracketed rest
  | _ =>
      if chars.any isForbiddenInHost then .error .invalidDomainCharacter
      else .ok (.named (String.ofList (percentEncode [] chars)))

def isEmpty (host : Host) : Bool :=
  host = .named ""

def text : Host → String
  | .named name => name
  | .ipv4 address => ipv4Text address
  | .ipv6 pieces => "[" ++ ipv6Text pieces ++ "]"

end Host

end MarkupHarden.Url
