import MarkupHarden.Dom.Mutation
import MarkupHarden.Url.Fault

/-!
# Faults

Every operation that can fail names the cause of the failure.  A cause belongs
to one of six kinds, each with a stable code, and has one wording.
-/

namespace MarkupHarden

/-- The kinds of faults that callers can tell apart by code. -/
inductive FaultKind where
  | unsupportedInput
  | parseFailed
  | ruleFailed
  | hierarchyRequest
  | invalidConfig
  | io
  deriving DecidableEq, Repr

def FaultKind.code : FaultKind → String
  | .unsupportedInput => "input.unsupported_type"
  | .parseFailed => "html.parse_failed"
  | .ruleFailed => "rules.rule_failed"
  | .hierarchyRequest => "dom.hierarchy_request"
  | .invalidConfig => "config.invalid"
  | .io => "io.failed"

/-- Why a file could not be read or written. -/
inductive FileFault where
  | missing
  | isDirectory
  | notDirectory
  | notText
  | other (description : String)
  deriving DecidableEq, Repr

def FileFault.message : FileFault → String
  | .missing => "No such file or directory (os error 2)"
  | .isDirectory => "Is a directory (os error 21)"
  | .notDirectory => "Not a directory (os error 20)"
  | .notText => "stream did not contain valid UTF-8"
  | .other description => description

/-- The causes of failure. -/
inductive Fault where
  | foreignNode (id : Dom.NodeId)
  | documentAsInput
  | compositeInput
  | nestingExceeds (limit : Nat)
  | refused (refusal : Dom.Refusal)
  | invalidScheme (raw : String)
  | emptySchemeList
  | unknownPolicy (token : String)
  | unparsableBase (input : String) (reason : Url.ParseFault)
  | opaqueBase (input : String)
  | configNotObject (file : String)
  | configUnparsable (file : String)
  | file (name : String) (reason : FileFault)
  /-- A fault of a caller's own parser or rule. -/
  | reported (kind : FaultKind) (message : String)
  deriving DecidableEq, Repr

namespace Fault

def kind : Fault → FaultKind
  | foreignNode _ | documentAsInput | compositeInput => .unsupportedInput
  | nestingExceeds _ => .parseFailed
  | refused _ => .hierarchyRequest
  | invalidScheme _ | emptySchemeList | unknownPolicy _ | unparsableBase _ _
  | opaqueBase _ | configNotObject _ | configUnparsable _ => .invalidConfig
  | file _ _ => .io
  | reported kind _ => kind

def code (fault : Fault) : String :=
  fault.kind.code

def message : Fault → String
  | foreignNode id => s!"node {id} does not belong to the given document"
  | documentAsInput => "documents and doctypes cannot be sanitized as content"
  | compositeInput => "arrays and objects cannot be sanitized"
  | nestingExceeds limit => s!"element nesting exceeds {limit} levels"
  | refused refusal => refusal.message
  | invalidScheme raw => s!"`{raw}` is not a valid URL scheme"
  | emptySchemeList => "scheme allow-list must not be empty"
  | unknownPolicy token => s!"`{token}` is not a referrer policy"
  | unparsableBase input reason =>
      s!"failed to parse base URL `{input}`: " ++ reason.message
  | opaqueBase input => s!"`{input}` cannot be used as a base URL"
  | configNotObject name => s!"{name} must hold a JSON object"
  | configUnparsable name => name
  | file name reason => s!"{name}: " ++ reason.message
  | reported _ message => message

/-- The code and the message, as faults are shown in logs and on a terminal. -/
def text (fault : Fault) : String :=
  fault.code ++ ": " ++ fault.message

end Fault

end MarkupHarden
