import MarkupHarden.Fault

/-!
# Events

Operations report noteworthy decisions as events.  An event is a cause with a
level, a fixed message and named fields.  `Logged` pairs a result with the
events on the way to it, so that reporting stays a pure value.
-/

namespace MarkupHarden

/-- How much an event matters. -/
inductive Level where
  | warn
  | debug
  | trace
  deriving DecidableEq, Repr

def Level.label : Level → String
  | .warn => "warn"
  | .debug => "debug"
  | .trace => "trace"

/-- The value of a field of an event. -/
inductive FieldValue where
  | text (text : String)
  | count (count : Nat)
  deriving DecidableEq, Repr

/-- What is reported. -/
inductive Event where
  | documentParsed (bytes nodes : Nat)
  | fragmentParsed (bytes nodes : Nat)
  | strayEndTag (tag : String)
  | attributeUpgraded (element key : String)
  | attributeRemoved (element key : String)
  | nothingToHarden (bytes : Nat)
  | treeHardened (visited elements ruleApplications : Nat)
  | documentElementMissing
  | documentParseFailed (fault : Fault)
  | fragmentParseFailed (fault : Fault)
  | canaryFailed (fault : Fault)
  | optionsNotObject (found : String)
  | flagNotBoolean (key found : String)
  | rulesNotObject (found : String)
  | unknownRule (rule : String)
  | ruleEntryUnusable (rule found : String)
  | schemeNotString (found : String)
  | schemesNotArray (found : String)
  | schemesDropped (requested kept : Nat)
  | policyUnknown (policy : String)
  | policyNotString (found : String)
  | baseUrlNotString (found : String)
  | baseUrlUnusable (fault : Fault)
  deriving DecidableEq, Repr

namespace Event

def level : Event → Level
  | documentParsed _ _ | fragmentParsed _ _ | strayEndTag _
  | treeHardened _ _ _ | canaryFailed _ => .debug
  | attributeUpgraded _ _ | attributeRemoved _ _ | nothingToHarden _ => .trace
  | _ => .warn

def message : Event → String
  | documentParsed _ _ => "parsed html document"
  | fragmentParsed _ _ => "parsed html fragment"
  | strayEndTag _ => "ignoring end tag without a matching open element"
  | attributeUpgraded _ _ => "upgraded attribute to https"
  | attributeRemoved _ _ => "removed attribute with disallowed scheme"
  | nothingToHarden _ => "no markup to harden"
  | treeHardened _ _ _ => "hardened tree"
  | documentElementMissing =>
      "parser produced no document element; assigning markup to an empty body"
  | documentParseFailed _ =>
      "parser failed; assigning markup to an empty body"
  | fragmentParseFailed _ =>
      "markup assignment failed; no tree to sanitize"
  | canaryFailed _ => "canary document failed to parse"
  | optionsNotObject _ => "options must be an object; using defaults"
  | flagNotBoolean _ _ => "option must be a boolean; using false"
  | rulesNotObject _ => "`rules` must be an object; using default rules"
  | unknownRule _ => "ignoring unknown rule"
  | ruleEntryUnusable _ _ =>
      "rule entry must be true or an object; enabling with defaults"
  | schemeNotString _ => "skipping non-string scheme"
  | schemesNotArray _ => "schemes must be an array; using http and https"
  | schemesDropped _ _ => "dropped invalid or duplicate schemes"
  | policyUnknown _ => "unknown referrer policy; using no-referrer"
  | policyNotString _ => "policy must be a string; using no-referrer"
  | baseUrlNotString _ => "baseUrl must be a string; ignoring it"
  | baseUrlUnusable _ => "ignoring unusable baseUrl"

def fields : Event → List (String × FieldValue)
  | documentParsed bytes nodes | fragmentParsed bytes nodes =>
      [("bytes", .count bytes), ("nodes", .count nodes)]
  | strayEndTag tag => [("tag", .text tag)]
  | attributeUpgraded element key | attributeRemoved element key =>
      [("element", .text element), ("attribute", .text key)]
  | nothingToHarden bytes => [("bytes", .count bytes)]
  | treeHardened visited elements ruleApplications =>
      [("visited", .count visited), ("elements", .count elements),
        ("rule_applications", .count ruleApplications)]
  | documentElementMissing => []
  | documentParseFailed fault | fragmentParseFailed fault
  | canaryFailed fault | baseUrlUnusable fault =>
      [("error", .text fault.text)]
  | optionsNotObject found | rulesNotObject found | schemeNotString found
  | schemesNotArray found | policyNotString found | baseUrlNotString found =>
      [("found", .text found)]
  | flagNotBoolean key found => [("key", .text key), ("found", .text found)]
  | unknownRule rule => [("rule", .text rule)]
  | ruleEntryUnusable rule found =>
      [("rule", .text rule), ("found", .text found)]
  | schemesDropped requested kept =>
      [("requested", .count requested), ("kept", .count kept)]
  | policyUnknown policy => [("policy", .text policy)]

end Event

/-- A result with the events reported on the way to it, in order. -/
structure Logged (α : Type) where
  value : α
  events : List Event := []

namespace Logged

/-- Reports one event. -/
def report (event : Event) : Logged Unit where
  value := ()
  events := [event]

instance : Monad Logged where
  pure value := { value }
  bind first next :=
    let second := next first.value
    { value := second.value, events := first.events ++ second.events }

@[simp]
theorem value_pure {α : Type} (value : α) :
    (pure value : Logged α).value = value := rfl

@[simp]
theorem events_pure {α : Type} (value : α) :
    (pure value : Logged α).events = [] := rfl

@[simp]
theorem value_bind {α β : Type} (first : Logged α) (next : α → Logged β) :
    (first >>= next).value = (next first.value).value := rfl

@[simp]
theorem events_bind {α β : Type} (first : Logged α) (next : α → Logged β) :
    (first >>= next).events = first.events ++ (next first.value).events := rfl

end Logged

end MarkupHarden
