import MarkupHarden.Json.Basic
import MarkupHarden.Rule.RuleSet

/-!
# Options

The options of one call, and how they are read from a JSON record.  Reading
never fails: a value that cannot be used is reported and gives way to its
default.
-/

namespace MarkupHarden

/-- The options of one call. -/
structure Options where
  /-- Whether the result is the `html` element rather than the content of
  `body`. -/
  wholeDocument : Bool := false
  /-- Whether the result is a tree rather than markup. -/
  returnTree : Bool := false
  rules : RuleSet := .default
  /-- The URL that relative attribute values are resolved against. -/
  baseUrl : Option Url := none

namespace Options

def ruleContext (options : Options) : Rule.Context where
  resolver := { base := options.baseUrl }

/-! ### Flags -/

/-- The value of a flag; anything but a boolean counts as false. -/
def flag (key : String) : Json → Logged Bool
  | .bool value => pure value
  | .null => pure false
  | other => do
      Logged.report (.flagNotBoolean key other.kind)
      pure false

/-- The flag stored under a key, which is false when absent. -/
def flagUnder (key : String) (record : Json.Members) : Logged Bool :=
  match record.find? key with
  | some value => flag key value
  | none => pure false

/-- Whether a tree is asked for, under either of two keys; the first one
decides unless it is null. -/
def readReturnTree (record : Json.Members) : Logged Bool :=
  match record.findSome? "returnTree" with
  | some value => flag "returnTree" value
  | none => flagUnder "returnDOM" record

/-! ### Rules -/

/-- The entries that are strings. -/
def stringEntries : List Json → Logged (List String)
  | [] => pure []
  | .string text :: rest => do
      let texts ← stringEntries rest
      pure (text :: texts)
  | entry :: rest => do
      Logged.report (.schemeNotString entry.kind)
      stringEntries rest

/-- The lenient list of the given entries. -/
def schemesOf (entries : List Json) : Logged Rule.SchemeList := do
  let texts ← stringEntries entries
  let list := Rule.SchemeList.lenient texts
  if list.size < texts.length then
    Logged.report (.schemesDropped texts.length list.size)
  pure list

/-- The allowed schemes, under either of two keys; the first one decides unless
it is null. -/
def readSchemes (entry : Json.Members) : Logged Rule.SchemeList :=
  match (entry.findSome? "schemes").or (entry.find? "validSchemes") with
  | none | some .null => pure .default
  | some (.array entries) => schemesOf entries
  | some other => do
      Logged.report (.schemesNotArray other.kind)
      pure .default

def readPolicy (entry : Json.Members) : Logged Rule.ReferrerPolicy :=
  match entry.find? "policy" with
  | none | some .null => pure .default
  | some (.string token) =>
      match Rule.ReferrerPolicy.ofToken? token with
      | some policy => pure policy
      | none => do
          Logged.report (.policyUnknown token)
          pure .default
  | some other => do
      Logged.report (.policyNotString other.kind)
      pure .default

/-- A built-in rule with the options of its entry.  Rules without options
ignore them. -/
def configure (rule : Rule) (entry : Json.Members) : Logged Rule :=
  match rule with
  | .validateUri _ => do
      let schemes ← readSchemes entry
      pure (.validateUri schemes)
  | .referrerPolicy _ => do
      let policy ← readPolicy entry
      pure (.referrerPolicy policy)
  | other => pure other

/-- Enables a built-in rule as its entry says; false and null leave it out. -/
def enable (set : RuleSet) (rule : Rule) : Json → Logged RuleSet
  | .bool false | .null => pure set
  | .bool true => pure (set.insert rule)
  | .object entry => do
      let configured ← configure rule entry
      pure (set.insert configured)
  | other => do
      Logged.report (.ruleEntryUnusable rule.name other.kind)
      pure (set.insert rule)

/-- Enables the rules of all entries, in order. -/
def enableAll (set : RuleSet) : Json.Members → Logged RuleSet
  | [] => pure set
  | (name, value) :: rest =>
      match Rule.builtin? name with
      | none => do
          Logged.report (.unknownRule name)
          enableAll set rest
      | some rule => do
          let set ← enable set rule value
          enableAll set rest

/-- The rules of a record.  A table of rules replaces the default ones. -/
def readRules (record : Json.Members) : Logged RuleSet :=
  match record.find? "rules" with
  | none | some .null => pure .default
  | some (.object entries) => enableAll .empty entries
  | some other => do
      Logged.report (.rulesNotObject other.kind)
      pure .default

/-! ### The record -/

def readBaseUrl (record : Json.Members) : Logged (Option Url) :=
  match record.find? "baseUrl" with
  | none | some .null => pure none
  | some (.string text) =>
      match Url.Resolver.ofBase text with
      | .ok resolver => pure resolver.base
      | .error fault => do
          Logged.report (.baseUrlUnusable fault)
          pure none
  | some other => do
      Logged.report (.baseUrlNotString other.kind)
      pure none

/-- The options that a JSON value stands for; null stands for the defaults. -/
def resolve : Json → Logged Options
  | .object record => do
      let returnTree ← readReturnTree record
      let wholeDocument ← flagUnder "wholeDocument" record
      let rules ← readRules record
      let baseUrl ← readBaseUrl record
      pure { wholeDocument, returnTree, rules, baseUrl }
  | .null => pure {}
  | other => do
      Logged.report (.optionsNotObject other.kind)
      pure {}

end Options

end MarkupHarden
