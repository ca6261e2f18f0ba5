import MarkupHarden.Proofs.Harden.WorkingTree
import MarkupHarden.Proofs.Html.BodyTag

/-!
# The fallback and the page

Markup that is not accepted as a page is assigned to the body of a shell
without a head.  For markup that starts with a body tag this makes no difference
to the content of the body, which holds the same trees either way.
-/

namespace MarkupHarden

open Dom (Document)
open Dom.Document (SharesContent)

namespace WorkingTree

/-- The shell has the same empty body without its head. -/
private theorem sharesContent_headlessShell :
    SharesContent 3 4 Document.shell headlessShell := by
  have detached : headlessShell = Document.shell.detach 2 := by decide
  rw [detached]
  exact .of_leaf rfl rfl Document.data?_detach rfl rfl

/-- The fallback fills the body of its shell with the trees of the page. -/
private theorem assignToBody?_bodyTag {parser : Html.HtmlParser}
    {markup content : String} {document : Document}
    (opens : Html.OpensBody markup content)
    (parsed : (parser.parseDocument markup).value = .ok document) :
    ∃ body assigned assignedBody,
      document.body? = some body ∧
        (assignToBody? parser.toMarkupParser markup).value = some assigned ∧
        assigned.body? = some assignedBody ∧
        assigned.forest assignedBody = document.forest body := by
  obtain ⟨isBody, contents⟩ :=
    Html.HtmlParser.parseDocument_bodyTag opens parsed
  obtain ⟨assigned, _, readAgain, sameTrees⟩ :=
    contents headlessShell wellFormed_headlessShell (by decide)
      sharesContent_headlessShell
  obtain ⟨later, read, extended⟩ := exists_assigned parser markup
  have same : assigned = later := congrArg Prod.snd (readAgain.symm.trans read)
  have shellBody : headlessShell.body? = some 3 := by decide
  refine ⟨3, assigned, 3, isBody, ?_, ?_, sameTrees⟩
  · rw [assignToBody?, shellBody]
    simp only [Html.HtmlParser.toMarkupParser, Logged.value_bind, readAgain,
      Logged.value_pure]
  · rw [same]
    exact (framed_of_extends extended).body?

/-- The body of a page that starts with a body tag has the same children as the
empty body of the shell gets from the markup behind the tag.  When any markup
starts with a body tag, whatever its attributes, the fallback leaves the same
children in the body as the page has them. -/
theorem assignToBody?_agrees (parser : Html.HtmlParser) :
    (∀ content document,
      (parser.parseDocument ("<body>" ++ content)).value = .ok document →
        ∃ body context after,
          document.body? = some body ∧
            Document.shell.body? = some context ∧
            (parser.parseFragment content .shell context).value =
              (.ok (), after) ∧
            after.forest context = document.forest body) ∧
      ∀ markup content document, Html.OpensBody markup content →
        (parser.parseDocument markup).value = .ok document →
          ∃ body assigned assignedBody,
            document.body? = some body ∧
              (assignToBody? parser.toMarkupParser markup).value =
                some assigned ∧
              assigned.body? = some assignedBody ∧
              assigned.forest assignedBody = document.forest body := by
  refine ⟨?_, fun _ _ _ opens parsed => assignToBody?_bodyTag opens parsed⟩
  intro content document parsed
  obtain ⟨isBody, contents⟩ := Html.HtmlParser.parseDocument_bodyTag
    (Html.opensBody_append content) parsed
  obtain ⟨after, read, _, sameTrees⟩ :=
    contents .shell Document.wellFormed_shell rfl
      Html.Builder.sharesContent_shell
  exact ⟨3, 3, after, isBody, rfl, read, sameTrees⟩

/-- A second body tag closes nothing, and gives its attributes to the body of
the page only. -/
theorem assignToBody?_agrees_secondTag :
    let parser : Html.HtmlParser := { maxDepth := 3 }
    let content := "<p>a<body class=b>c<p>d"
    let tagged := "<BODY id=e><i>f</b>"
    (∃ document body context after,
      (parser.parseDocument ("<body>" ++ content)).value = .ok document ∧
        document.body? = some body ∧
        Document.shell.body? = some context ∧
        (parser.parseFragment content .shell context).value =
          (.ok (), after) ∧
        after.forest context = document.forest body) ∧
      Html.OpensBody tagged "<i>f</b>" ∧
      ∃ document body assigned assignedBody,
        (parser.parseDocument tagged).value = .ok document ∧
          document.body? = some body ∧
          (assignToBody? parser.toMarkupParser tagged).value =
            some assigned ∧
          assigned.body? = some assignedBody ∧
          assigned.forest assignedBody = document.forest body := by
  intro parser content tagged
  have accepted {markup : String}
      (isOk : (parser.parseDocument markup).value.isOk = true) :
      ∃ document, (parser.parseDocument markup).value = .ok document := by
    cases parsed : (parser.parseDocument markup).value with
    | ok document => exact ⟨document, rfl⟩
    | error fault =>
        rw [parsed] at isOk
        contradiction
  have opens : Html.OpensBody tagged "<i>f</b>" :=
    ⟨[("id", "e")], false, by decide +kernel⟩
  obtain ⟨document, parsed⟩ := accepted (by decide +kernel :
    (parser.parseDocument ("<body>" ++ content)).value.isOk = true)
  obtain ⟨other, otherParsed⟩ := accepted (by decide +kernel :
    (parser.parseDocument tagged).value.isOk = true)
  have agrees := assignToBody?_agrees parser
  obtain ⟨body, context, after, same⟩ := agrees.1 content document parsed
  obtain ⟨otherBody, assigned, assignedBody, otherSame⟩ :=
    agrees.2 tagged "<i>f</b>" other opens otherParsed
  exact ⟨⟨document, body, context, after, parsed, same⟩, opens,
    other, otherBody, assigned, assignedBody, otherParsed, otherSame⟩

end WorkingTree

end MarkupHarden
