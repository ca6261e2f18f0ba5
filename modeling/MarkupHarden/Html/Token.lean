/-!
# Tokens

Markup is a sequence of tags, texts, comments and doctypes.  After the start
tag of some elements the text that follows is read by other rules; a
`TextSwitch` says by which.
-/

namespace MarkupHarden.Html

/-- Attributes as written in a tag: lower-case names, each at most once. -/
abbrev TagAttributes := List (String × String)

/-- A piece of markup. -/
inductive Token where
  | doctype (name : String)
  | startTag (name : String) (attributes : TagAttributes) (selfClosing : Bool)
  | endTag (name : String)
  | text (text : String)
  | comment (text : String)
  deriving DecidableEq, Repr

/-- How the text inside an element is read. -/
inductive TextMode where
  /-- Verbatim up to the matching end tag. -/
  | verbatim
  /-- Up to the matching end tag, with character references decoded. -/
  | escapable
  /-- Verbatim up to the end of the markup. -/
  | endless
  deriving DecidableEq, Repr

/-- A text mode and the element in which it was entered. -/
structure TextSwitch where
  mode : TextMode
  tag : String
  deriving DecidableEq, Repr

end MarkupHarden.Html
