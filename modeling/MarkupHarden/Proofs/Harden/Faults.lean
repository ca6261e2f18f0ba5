import MarkupHarden.Harden.Engine
import MarkupHarden.Proofs.Harden.Traversal
import MarkupHarden.Proofs.Harden.WorkingTree
import MarkupHarden.Proofs.Html.Reachable

/-!
# Which faults surface

A call fails for two reasons: its input is of a kind that is not hardened, or a
caller's own rule fails.  Everything else that goes wrong on the way, in the
parser or in the copying of a node, is dealt with inside.
-/

namespace MarkupHarden

open Dom (Document Element NodeId)
open Traversal

/-! ### Inputs -/

/-- An input that is not hardened, and the fault that says so. -/
inductive Unsupported : Input → Fault → Prop where
  | array (values : List Json) :
      Unsupported (.value (.array values)) .compositeInput
  | object (members : List (String × Json)) :
      Unsupported (.value (.object members)) .compositeInput
  | unknownNode {document : Document} {id : NodeId} :
      document.kind? id = none →
      Unsupported (.node document id) (.foreignNode id)
  | documentNode {document : Document} {id : NodeId} :
      document.kind? id = some .document →
      Unsupported (.node document id) .documentAsInput
  | doctype {document : Document} {id : NodeId} :
      document.kind? id = some .doctype →
      Unsupported (.node document id) .documentAsInput

theorem Unsupported.kind {input : Input} {fault : Fault}
    (unsupported : Unsupported input fault) :
    fault.kind = .unsupportedInput := by
  cases unsupported <;> rfl

namespace Source

private theorem ofValue_eq_error_iff {value : Json} {fault : Fault} :
    ofValue value = .error fault ↔ Unsupported (.value value) fault := by
  constructor
  · intro refused
    cases value with
    | array values => cases refused; exact .array values
    | object members => cases refused; exact .object members
    | null => cases refused
    | bool value => cases refused
    | number number => cases refused
    | string text => cases refused
  · intro unsupported
    cases unsupported <;> rfl

private theorem ofNode_eq_error_iff {document : Document} {id : NodeId}
    {fault : Fault} :
    ofNode document id = .error fault ↔
      Unsupported (.node document id) fault := by
  constructor
  · intro refused
    unfold ofNode at refused
    split at refused
    next unknown => cases refused; exact .unknownNode unknown
    next isDocument => cases refused; exact .documentNode isDocument
    next isDoctype => cases refused; exact .doctype isDoctype
    next => cases refused
  · intro unsupported
    cases unsupported with
    | unknownNode unknown => rw [ofNode, unknown]
    | documentNode isDocument => rw [ofNode, isDocument]
    | doctype isDoctype => rw [ofNode, isDoctype]

/-- An input is refused exactly when it is unsupported. -/
theorem ofInput_eq_error_iff {input : Input} {fault : Fault} :
    ofInput input = .error fault ↔ Unsupported input fault := by
  cases input with
  | markup text =>
      constructor
      · intro refused
        cases refused
      · intro unsupported
        cases unsupported
  | node document id => exact ofNode_eq_error_iff
  | value value => exact ofValue_eq_error_iff

/-- A supported node has a payload that can be copied. -/
theorem exists_data_of_ofInput {input : Input} {document : Document}
    {id : NodeId} (supported : ofInput input = .ok (.node document id)) :
    input = .node document id ∧
      ∃ data, document.data? id = some data ∧ data ≠ .document := by
  cases input with
  | markup text => cases supported
  | value value => cases value <;> cases supported
  | node source node =>
      change ofNode source node = _ at supported
      unfold ofNode at supported
      split at supported
      next => cases supported
      next => cases supported
      next => cases supported
      next kind notDocument _ found =>
        cases supported
        obtain ⟨data, present, isKind⟩ := Option.map_eq_some_iff.mp found
        refine ⟨rfl, data, present, ?_⟩
        rintro rfl
        exact notDocument isKind.symm

end Source

/-! ### What every caller provides -/

/-- The links of every document that a parser makes agree if they did in the
document that it was given. -/
structure Html.MarkupParser.Sound (parser : Html.MarkupParser) : Prop where
  document : ∀ markup document,
    (parser.parseDocument markup).value = .ok document → document.WellFormed
  fragment : ∀ markup document context later, document.WellFormed →
    (parser.parseFragment markup document context).value = (.ok (), later) →
      later.WellFormed

theorem Html.HtmlParser.sound (parser : Html.HtmlParser) :
    parser.toMarkupParser.Sound where
  document := fun _ _ parsed =>
    Html.durable_wellFormed.parseDocument Document.wellFormed_empty parsed
  fragment := by
    intro markup document context later wellFormed parsed
    have after := Html.durable_wellFormed.parseFragment wellFormed parser markup
      context
    change (parser.parseFragment markup document context).value = _ at parsed
    rw [parsed] at after
    exact after

/-- The links of the document that an input is a node of agree. -/
def Input.WellFormed : Input → Prop
  | .node document _ => document.WellFormed
  | .markup _ | .value _ => True

/-! ### Working trees -/

namespace Engine

/-- The working tree on which the rules run, if there is one. -/
def working? (engine : Engine) (options : Options) :
    Source → Option WorkingTree
  | .markup text =>
      if isPlainText options text then none
      else
        (WorkingTree.ofMarkup? engine.parser text options.wholeDocument).value
  | .node document id =>
      (WorkingTree.ofNode document id options.wholeDocument).toOption

variable {engine : Engine} {options : Options}

private theorem wellFormed_assignToBody? {parser : Html.MarkupParser}
    (sound : parser.Sound) {markup : String} {document : Document}
    (built : (WorkingTree.assignToBody? parser markup).value = some document) :
    document.WellFormed := by
  unfold WorkingTree.assignToBody? at built
  split at built
  next => cases built
  next body isBody =>
    rw [Logged.value_bind] at built
    cases result : (parser.parseFragment markup WorkingTree.headlessShell
        body).value with
    | mk outcome later =>
        rw [result] at built
        cases outcome with
        | error fault => cases built
        | ok =>
            cases built
            exact sound.fragment markup _ body document
              WorkingTree.wellFormed_headlessShell result

private theorem wellFormed_ofMarkup? {parser : Html.MarkupParser}
    (sound : parser.Sound) {markup : String} {wholeDocument : Bool}
    {working : WorkingTree}
    (built : (WorkingTree.ofMarkup? parser markup wholeDocument).value =
      some working) : working.document.WellFormed := by
  rw [WorkingTree.ofMarkup?, Logged.value_bind, Logged.value_pure] at built
  obtain ⟨document, parsed, selected⟩ := Option.bind_eq_some_iff.mp built
  obtain ⟨root, _, rfl⟩ := Option.map_eq_some_iff.mp selected
  change document.WellFormed
  rw [WorkingTree.parse?, Logged.value_bind] at parsed
  cases result : (parser.parseDocument markup).value with
  | error fault =>
      rw [result] at parsed
      exact wellFormed_assignToBody? sound parsed
  | ok other =>
      rw [result] at parsed
      simp only at parsed
      split at parsed
      · cases parsed
        exact sound.document markup document result
      · exact wellFormed_assignToBody? sound parsed

/-- The working tree of a supported node is never refused. -/
private theorem exists_ofNode {input : Input} (wellFormed : input.WellFormed)
    {document : Document} {id : NodeId}
    (supported : Source.ofInput input = .ok (.node document id))
    (wholeDocument : Bool) :
    ∃ working, WorkingTree.ofNode document id wholeDocument = .ok working ∧
      working.document.WellFormed := by
  obtain ⟨rfl, data, present, notDocument⟩ :=
    Source.exists_data_of_ofInput supported
  obtain ⟨_, _, _, later, _, _, _, built⟩ :=
    WorkingTree.ofNode_eq_ok wellFormed present notDocument
  exact ⟨_, built wholeDocument, later⟩

private theorem wellFormed_working (sound : engine.parser.Sound)
    {input : Input} (wellFormed : input.WellFormed) {source : Source}
    (supported : Source.ofInput input = .ok source) {working : WorkingTree}
    (built : engine.working? options source = some working) :
    working.document.WellFormed := by
  cases source with
  | markup text =>
      simp only [working?, Option.ite_none_left_eq_some] at built
      exact wellFormed_ofMarkup? sound built.2
  | node document id =>
      obtain ⟨other, isOther, after⟩ :=
        exists_ofNode wellFormed supported options.wholeDocument
      rw [working?, isOther] at built
      cases built
      exact after

/-! ### Failing rules -/

/-- The first fault of the rules on a working tree, in document order and on
each element in the order of the rules, is a fault of a custom rule. -/
def FailsFirst (options : Options) (working : WorkingTree) (fault : Fault) :
    Prop :=
  ∃ failure : FirstFault working.document options.rules options.ruleContext
      (working.document.subtree working.root),
    failure.rule.isCustom = true ∧ failure.fault = fault

private theorem isCustom_of_fault {rule : Rule} {context : Rule.Context}
    {element : Element} {fault : Fault}
    (fails : (rule.apply context element).fault = some fault) :
    rule.isCustom = true := by
  cases isCustom : rule.isCustom with
  | true => rfl
  | false =>
      have succeed : RuleSet.AllSucceed context [rule] element := by
        apply RuleSet.allSucceed_of_builtin
        intro other member
        rw [List.mem_singleton.mp member]
        exact isCustom
      rw [succeed.1] at fails
      cases fails

private theorem finish_of_firstFault (engine : Engine) {working : WorkingTree}
    (wellFormed : working.document.WellFormed)
    (failure : FirstFault working.document options.rules options.ruleContext
      (working.document.subtree working.root)) :
    (engine.finish options working).value = .error failure.fault := by
  have distinct := (wellFormed.nodup_subtree working.root).filter
    (isVisited working.document)
  obtain ⟨failed, _⟩ := visitAll_of_firstFault _ {} working.document distinct
    failure.filter
  rw [← traverse_eq_visitAll wellFormed working.root] at failed
  unfold finish
  simp only [failed]
  rfl

/-- Hardening a tree fails with the first fault of its rules. -/
private theorem finish_eq_error_iff {working : WorkingTree}
    (wellFormed : working.document.WellFormed) {fault : Fault} :
    (engine.finish options working).value = .error fault ↔
      FailsFirst options working fault := by
  constructor
  · intro failed
    rcases faultFree_or_firstFault working.document options.rules
        options.ruleContext (working.document.subtree working.root) with
      faultFree | failing
    · have succeeded := engine.finish_of_faultFree wellFormed faultFree
      cases failed.symm.trans succeeded
    · obtain ⟨failure⟩ := failing
      have failedSo := finish_of_firstFault engine wellFormed failure
      refine ⟨failure, isCustom_of_fault failure.fails, ?_⟩
      exact Except.error.inj (failedSo.symm.trans failed)
  · rintro ⟨failure, _, rfl⟩
    exact finish_of_firstFault engine wellFormed failure

/-! ### Calls -/

/-- On a host that parses, a call fails exactly when its rules fail on the
working tree. -/
private theorem withParsing_eq_error_iff (sound : engine.parser.Sound)
    {input : Input} (wellFormed : input.WellFormed) {source : Source}
    (supported : Source.ofInput input = .ok source) {fault : Fault} :
    (engine.withParsing options source).value = .error fault ↔
      ∃ working, engine.working? options source = some working ∧
        FailsFirst options working fault := by
  have agreed {working : WorkingTree}
      (built : engine.working? options source = some working) :
      (engine.finish options working).value = .error fault ↔
        FailsFirst options working fault :=
    finish_eq_error_iff (wellFormed_working sound wellFormed supported built)
  cases source with
  | markup text =>
      cases plain : isPlainText options text with
      | true =>
          have handedBack : (engine.withParsing options (.markup text)).value =
              .ok (.markup text) := by
            rw [withParsing, if_pos plain]
            rfl
          simp [handedBack, working?, plain]
      | false =>
          have isWorking : engine.working? options (.markup text) =
              (WorkingTree.ofMarkup? engine.parser text
                options.wholeDocument).value := by
            rw [working?, plain, if_neg Bool.false_ne_true]
          rw [withParsing, plain, if_neg Bool.false_ne_true,
            Logged.value_bind, ← isWorking]
          cases built : engine.working? options (.markup text) with
          | none => simp
          | some working =>
              simp only [Option.some.injEq, exists_eq_left']
              exact agreed built
  | node document id =>
      obtain ⟨working, built, _⟩ :=
        exists_ofNode wellFormed supported options.wholeDocument
      have isWorking : engine.working? options (.node document id) =
          some working := by
        rw [working?, built]
        rfl
      have finished : (engine.withParsing options (.node document id)).value =
          (engine.finish options working).value := by
        rw [withParsing, built]
      rw [finished, agreed isWorking, isWorking]
      simp only [Option.some.injEq, exists_eq_left']

/-- A call fails for unsupported input, whatever the host, or with the first
fault of a custom rule on the working tree; with built-in rules alone every
supported input is hardened.  A supported node always has a working tree, and
so has markup that the bundled parser reads. -/
theorem hardenWith_faults (sound : engine.parser.Sound) {input : Input}
    (wellFormed : input.WellFormed) (options : Options) :
    (∀ fault, (engine.hardenWith input options).value = .error fault ↔
        Unsupported input fault ∨
          engine.environment.canParseSafely = true ∧
            ∃ source working, Source.ofInput input = .ok source ∧
              engine.working? options source = some working ∧
                FailsFirst options working fault) ∧
      (∀ fault, Unsupported input fault → fault.kind = .unsupportedInput) ∧
      ((∀ rule ∈ options.rules.rules, rule.isCustom = false) →
        (∀ fault, ¬Unsupported input fault) →
          ∃ result, (engine.hardenWith input options).value = .ok result) ∧
      (∀ document id, Source.ofInput input = .ok (.node document id) →
        ∃ working, engine.working? options (.node document id) =
          some working) ∧
      ∀ parser : Html.HtmlParser, 1 ≤ parser.maxDepth →
        engine.parser = parser.toMarkupParser →
          ∀ text, isPlainText options text = false →
            ∃ working, engine.working? options (.markup text) =
              some working := by
  have surfaces : ∀ fault,
      (engine.hardenWith input options).value = .error fault ↔
        Unsupported input fault ∨
          engine.environment.canParseSafely = true ∧
            ∃ source working, Source.ofInput input = .ok source ∧
              engine.working? options source = some working ∧
                FailsFirst options working fault := by
    intro fault
    rw [hardenWith, ← Source.ofInput_eq_error_iff]
    cases supported : Source.ofInput input with
    | error refused => simp
    | ok source =>
        cases engine.environment.canParseSafely with
        | false => simp
        | true =>
            simp [withParsing_eq_error_iff sound wellFormed supported]
  refine ⟨surfaces, fun _ => Unsupported.kind, ?_, ?_, ?_⟩
  · intro builtin supported
    cases outcome : (engine.hardenWith input options).value with
    | ok result => exact ⟨result, rfl⟩
    | error fault =>
        rcases (surfaces fault).mp outcome with
          unsupported | ⟨_, _, _, _, _, failure, custom, _⟩
        · exact absurd unsupported (supported fault)
        · have member : failure.rule ∈ options.rules.rules := by
            rw [failure.rules_eq]
            simp
          rw [builtin failure.rule member] at custom
          cases custom
  · intro document id supported
    obtain ⟨working, built, _⟩ :=
      exists_ofNode wellFormed supported options.wholeDocument
    exact ⟨working, by rw [working?, built]; rfl⟩
  · intro parser positive isParser text rich
    obtain ⟨document, html, body, _, built⟩ :=
      WorkingTree.ofMarkup?_framed positive text
    rw [working?, rich, if_neg Bool.false_ne_true, isParser]
    exact ⟨_, built options.wholeDocument⟩

/-- Options under which a rule fails on every `head`. -/
def refusingOptions : Options where
  wholeDocument := true
  rules := Document.refusingHead

/-- A shell with a second `head` in its body. -/
def headInBody : WorkingTree where
  document := Document.shell.grown 3 (.element (.html "head"))
  root := 1

private def headFails : FirstFault headInBody.document refusingOptions.rules
    refusingOptions.ruleContext (headInBody.document.subtree headInBody.root) where
  before := [1]
  id := 2
  after := [3, 4]
  element := .html "head"
  ran := [.noopener]
  rule := refusingOptions.rules.rules[1]
  unrun := []
  fault := .reported .ruleFailed "head"
  ids_eq := by decide
  before_faultFree := by
    intro id member element found
    have html : headInBody.document.element? 1 = some (.html "html") := by
      decide
    rw [List.mem_singleton.mp member, html] at found
    cases found
    exact ⟨rfl, by decide, trivial⟩
  element_eq := by decide
  rules_eq := rfl
  ran_succeed := ⟨rfl, trivial⟩
  fails := by decide

/-- The rule fails on the head of the shell before it comes to the copied one. -/
theorem hardenWith_faults_refusing :
    ({ environment := .capable } : Engine).parser.Sound ∧
      (Input.node .shell 2).WellFormed ∧
      (({ environment := .capable } : Engine).hardenWith (.node .shell 2)
        refusingOptions).value = .error (.reported .ruleFailed "head") := by
  have sound : ({ environment := .capable } : Engine).parser.Sound :=
    Html.HtmlParser.sound {}
  have wellFormed : (Input.node .shell 2).WellFormed :=
    Document.wellFormed_shell
  have built : WorkingTree.ofNode .shell 2 true = .ok headInBody := by rfl
  refine ⟨sound, wellFormed, ?_⟩
  refine ((hardenWith_faults sound wellFormed refusingOptions).1 _).mpr (.inr
    ⟨rfl, .node .shell 2, headInBody, by rfl, ?_, headFails, by rfl, by rfl⟩)
  change (WorkingTree.ofNode .shell 2 true).toOption = some headInBody
  rw [built]
  rfl

end Engine

end MarkupHarden
