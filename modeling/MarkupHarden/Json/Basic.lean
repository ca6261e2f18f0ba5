import MarkupHarden.Json.Double

/-!
# JSON values

Options and loosely typed input are JSON values.  An object lists its members
in ascending order of their keys, each key once.
-/

namespace MarkupHarden

namespace Json

/-- A number: whole as long as it fits 64 bits, a double otherwise. -/
inductive Number where
  | natural (value : Nat)
  | negative (magnitude : Nat)
  | double (isNegative : Bool) (value : Double)
  deriving DecidableEq, Repr

def Number.text : Number → String
  | .natural value => toString value
  | .negative magnitude => "-" ++ toString magnitude
  | .double isNegative value =>
      (if isNegative then "-" else "") ++ value.shortest.text

end Json

/-- A JSON value. -/
inductive Json where
  | null
  | bool (value : Bool)
  | number (value : Json.Number)
  | string (value : String)
  | array (items : List Json)
  | object (members : List (String × Json))
  deriving Repr

namespace Json

/-- The kind of a value in messages. -/
def kind : Json → String
  | null => "null"
  | bool _ => "boolean"
  | number _ => "number"
  | string _ => "string"
  | array _ => "array"
  | object _ => "object"

def isNull : Json → Bool
  | null => true
  | _ => false

/-- The members of an object. -/
abbrev Members := List (String × Json)

namespace Members

/-- The value of a member. -/
def find? (key : String) : Members → Option Json
  | [] => none
  | (name, value) :: rest => if name = key then some value else find? key rest

/-- Adds a member at its place among the keys, or replaces its value. -/
def insert (key : String) (value : Json) : Members → Members
  | [] => [(key, value)]
  | (name, old) :: rest =>
      if key = name then (key, value) :: rest
      else if key < name then (key, value) :: (name, old) :: rest
      else (name, old) :: insert key value rest

/-- The value of a member unless it is null. -/
def findSome? (key : String) (members : Members) : Option Json :=
  (find? key members).filter (!·.isNull)

end Members

end Json

end MarkupHarden
