import MarkupHarden.Charset.Basic
import MarkupHarden.Charset.Decode
import MarkupHarden.Charset.Markup
import MarkupHarden.Charset.Table
import MarkupHarden.CommandLine.Arguments
import MarkupHarden.CommandLine.Host
import MarkupHarden.CommandLine.LogFilter
import MarkupHarden.CommandLine.Run
import MarkupHarden.CommandLine.ValuePattern
import MarkupHarden.Dom.Attributes
import MarkupHarden.Dom.Cursor
import MarkupHarden.Dom.Document
import MarkupHarden.Dom.Element
import MarkupHarden.Dom.Mutation
import MarkupHarden.Dom.Node
import MarkupHarden.Dom.Order
import MarkupHarden.Dom.Tree
import MarkupHarden.Event
import MarkupHarden.Fault
import MarkupHarden.Harden.Engine
import MarkupHarden.Harden.Environment
import MarkupHarden.Harden.Input
import MarkupHarden.Harden.Options
import MarkupHarden.Harden.Result
import MarkupHarden.Harden.Traversal
import MarkupHarden.Harden.WorkingTree
import MarkupHarden.Html.CharacterReference
import MarkupHarden.Html.Lexer
import MarkupHarden.Html.Parser
import MarkupHarden.Html.Serializer
import MarkupHarden.Html.Token
import MarkupHarden.Html.TreeBuilder
import MarkupHarden.Html.Vocabulary
import MarkupHarden.Json.Basic
import MarkupHarden.Json.Double
import MarkupHarden.Json.Text
import MarkupHarden.Main
import MarkupHarden.Proofs.Charset.AsciiMarkup
import MarkupHarden.Proofs.CommandLine.Inputs
import MarkupHarden.Proofs.Dom.Appending
import MarkupHarden.Proofs.Dom.AttributeEdits
import MarkupHarden.Proofs.Dom.Attributes
import MarkupHarden.Proofs.Dom.Copying
import MarkupHarden.Proofs.Dom.DocumentOrder
import MarkupHarden.Proofs.Dom.Forest
import MarkupHarden.Proofs.Dom.Importing
import MarkupHarden.Proofs.Dom.Insertion
import MarkupHarden.Proofs.Dom.Levels
import MarkupHarden.Proofs.Dom.LinkRequests
import MarkupHarden.Proofs.Dom.LinkSurgery
import MarkupHarden.Proofs.Dom.LinkTable
import MarkupHarden.Proofs.Dom.Linked
import MarkupHarden.Proofs.Dom.Links
import MarkupHarden.Proofs.Dom.Relinking
import MarkupHarden.Proofs.Dom.Rightmost
import MarkupHarden.Proofs.Dom.SharedContent
import MarkupHarden.Proofs.Dom.Siblings
import MarkupHarden.Proofs.Dom.Subtree
import MarkupHarden.Proofs.Dom.Tree
import MarkupHarden.Proofs.Dom.Update
import MarkupHarden.Proofs.Dom.WellFormed
import MarkupHarden.Proofs.Harden.Fallback
import MarkupHarden.Proofs.Harden.Faults
import MarkupHarden.Proofs.Harden.Guarantee
import MarkupHarden.Proofs.Harden.Modes
import MarkupHarden.Proofs.Harden.NodeInput
import MarkupHarden.Proofs.Harden.Options
import MarkupHarden.Proofs.Harden.PlainText
import MarkupHarden.Proofs.Harden.Repetition
import MarkupHarden.Proofs.Harden.Reports
import MarkupHarden.Proofs.Harden.Traversal
import MarkupHarden.Proofs.Harden.WorkingTree
import MarkupHarden.Proofs.Html.Agreement
import MarkupHarden.Proofs.Html.Appending
import MarkupHarden.Proofs.Html.BodyContent
import MarkupHarden.Proofs.Html.BodyTag
import MarkupHarden.Proofs.Html.Building
import MarkupHarden.Proofs.Html.CharacterReference
import MarkupHarden.Proofs.Html.Editing
import MarkupHarden.Proofs.Html.Effects
import MarkupHarden.Proofs.Html.Formed
import MarkupHarden.Proofs.Html.FragmentContent
import MarkupHarden.Proofs.Html.Grounding
import MarkupHarden.Proofs.Html.HeadContent
import MarkupHarden.Proofs.Html.Lexing
import MarkupHarden.Proofs.Html.Limits
import MarkupHarden.Proofs.Html.Markup
import MarkupHarden.Proofs.Html.Moves
import MarkupHarden.Proofs.Html.Nesting
import MarkupHarden.Proofs.Html.OpenElements
import MarkupHarden.Proofs.Html.Page
import MarkupHarden.Proofs.Html.Parsed
import MarkupHarden.Proofs.Html.Parsing
import MarkupHarden.Proofs.Html.Placement
import MarkupHarden.Proofs.Html.PlainText
import MarkupHarden.Proofs.Html.Reachable
import MarkupHarden.Proofs.Html.ReferenceGrammar
import MarkupHarden.Proofs.Html.Refusals
import MarkupHarden.Proofs.Html.Rereading
import MarkupHarden.Proofs.Html.RoundTrip
import MarkupHarden.Proofs.Html.Scanner
import MarkupHarden.Proofs.Html.ScannerRuns
import MarkupHarden.Proofs.Html.Scanning
import MarkupHarden.Proofs.Html.Searching
import MarkupHarden.Proofs.Html.Shape
import MarkupHarden.Proofs.Html.Shaping
import MarkupHarden.Proofs.Html.Spelling
import MarkupHarden.Proofs.Html.Stability
import MarkupHarden.Proofs.Html.Standing
import MarkupHarden.Proofs.Html.Stepping
import MarkupHarden.Proofs.Html.TokenSteps
import MarkupHarden.Proofs.Html.Tokens
import MarkupHarden.Proofs.Html.Writing
import MarkupHarden.Proofs.Json.DistinctKeys
import MarkupHarden.Proofs.Rule.Commutation
import MarkupHarden.Proofs.Rule.Edits
import MarkupHarden.Proofs.Rule.Frame
import MarkupHarden.Proofs.Rule.Guarantee
import MarkupHarden.Proofs.Rule.Repetition
import MarkupHarden.Proofs.Rule.SchemeList
import MarkupHarden.Proofs.Text.Digits
import MarkupHarden.Proofs.Text.LetterCase
import MarkupHarden.Proofs.Text.Utf8
import MarkupHarden.Rule.Basic
import MarkupHarden.Rule.ReferrerPolicy
import MarkupHarden.Rule.RuleSet
import MarkupHarden.Rule.SchemeList
import MarkupHarden.Text.Alphanumeric
import MarkupHarden.Text.Ascii
import MarkupHarden.Text.Blank
import MarkupHarden.Text.CodePointTable
import MarkupHarden.Text.Composition
import MarkupHarden.Text.Digits
import MarkupHarden.Text.Direction
import MarkupHarden.Text.Joining
import MarkupHarden.Url.Basic
import MarkupHarden.Url.Domain
import MarkupHarden.Url.DomainMapping
import MarkupHarden.Url.Fault
import MarkupHarden.Url.Host
import MarkupHarden.Url.LabelRule
import MarkupHarden.Url.Parse
import MarkupHarden.Url.Path
import MarkupHarden.Url.Percent
import MarkupHarden.Url.Punycode
import MarkupHarden.Url.Resolver
