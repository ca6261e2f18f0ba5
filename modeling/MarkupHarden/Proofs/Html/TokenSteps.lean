import MarkupHarden.Proofs.Html.Effects

/-!
# Markup token by token

`Reads` lists the tokens of a markup with the builder in front of each and the
builder behind it.  It is a relation that `consume` computes, so that facts
about every token of a markup can be stated and then proved along the list.
-/

namespace MarkupHarden.Html

open Dom (Document NodeId)

/-- A token with the builder to which it is added and the one that results. -/
structure TokenStep where
  before : Builder
  token : Token
  after : Builder

namespace Builder

/-- A builder takes the tokens of a lexer one by one, until none is left or the
builder stops. -/
inductive Reads : Builder → Lexer → List TokenStep → Builder → Prop where
  | done {builder : Builder} {lexer after : Lexer} :
      lexer.next = (none, after) → Reads builder lexer [] builder
  | stopped {builder : Builder} {lexer after : Lexer} {token : Token} :
      lexer.next = (some token, after) →
      (builder.step token).2.isStopped = true →
      Reads builder lexer
        [{ before := builder, token, after := (builder.step token).2 }]
        (builder.step token).2
  | step {builder last : Builder} {lexer after : Lexer} {token : Token}
      {steps : List TokenStep} :
      lexer.next = (some token, after) →
      (builder.step token).2.isStopped = false →
      Reads (builder.step token).2
        { rest := after.rest, switch := (builder.step token).1 } steps
        last →
      Reads builder lexer
        ({ before := builder, token, after := (builder.step token).2 } ::
          steps)
        last

variable {builder last : Builder} {lexer : Lexer} {steps : List TokenStep}

/-- The tokens are those that are consumed. -/
theorem Reads.eq_consume (reads : Reads builder lexer steps last) :
    last = builder.consume lexer := by
  induction reads with
  | done read => rw [consume_of_done read]
  | stopped read stops =>
      rw [consume_eq, read]
      simp only [stops, if_true]
  | step read goesOn _ later =>
      conv_rhs => rw [consume_eq, read]
      simp only [goesOn, Bool.false_eq_true, if_false]
      exact later

theorem exists_reads (builder : Builder) (lexer : Lexer) :
    ∃ steps, Reads builder lexer steps (builder.consume lexer) := by
  induction length : lexer.rest.length using Nat.strong_induction_on
    generalizing builder lexer with
  | _ length induction =>
      cases read : lexer.next with
      | mk next after =>
          cases next with
          | none => exact ⟨[], consume_of_done read ▸ .done read⟩
          | some token =>
              have shorter := Lexer.next_length read
              cases stops : (builder.step token).2.isStopped with
              | true =>
                  have reads := Reads.stopped read stops
                  exact ⟨_, reads.eq_consume ▸ reads⟩
              | false =>
                  obtain ⟨steps, later⟩ := induction after.rest.length
                    (by omega) (builder.step token).2
                    { rest := after.rest, switch := (builder.step token).1 }
                    rfl
                  have reads := Reads.step read stops later
                  exact ⟨_, reads.eq_consume ▸ reads⟩

/-- Each of them is one step of a builder. -/
theorem Reads.after_eq (reads : Reads builder lexer steps last) :
    ∀ stepped ∈ steps,
      stepped.after = (stepped.before.step stepped.token).2 := by
  induction reads with
  | done _ => exact List.forall_mem_nil _
  | stopped _ _ => exact List.forall_mem_singleton.mpr rfl
  | step _ _ _ later => exact List.forall_mem_cons.mpr ⟨rfl, later⟩

/-- What every move keeps holds in front of each token and behind it. -/
theorem Lasting.reads {holds : Builder → Prop} (lasting : Lasting holds)
    (reads : Reads builder lexer steps last) (situated : Situated builder)
    (start : holds builder) :
    ∀ stepped ∈ steps, holds stepped.before ∧ holds stepped.after := by
  induction reads with
  | done _ => exact List.forall_mem_nil _
  | stopped read _ =>
      have effect := effect_step situated (Lexer.isToken_next read)
      exact List.forall_mem_singleton.mpr
        ⟨start, lasting.effect effect start⟩
  | step read _ _ later =>
      have effect := effect_step situated (Lexer.isToken_next read)
      have stepped := lasting.effect effect start
      exact List.forall_mem_cons.mpr ⟨⟨start, stepped⟩,
        later (lasting_situated.effect effect situated) stepped⟩

/-- The lexer with which a builder starts on a markup. -/
def lexerFor (builder : Builder) (markup : String) : Lexer :=
  if builder.fragment then
    { Lexer.ofMarkup markup with
      switch := builder.currentElement?.bind textSwitch? }
  else Lexer.ofMarkup markup

theorem run_eq (builder : Builder) (markup : String) :
    builder.run markup =
      if builder.fragment ||
          (builder.consume (builder.lexerFor markup)).isStopped then
        builder.consume (builder.lexerFor markup)
      else (builder.consume (builder.lexerFor markup)).startBody [] := by
  unfold run lexerFor
  cases builder.fragment with
  | true => rfl
  | false => rfl

end Builder

end MarkupHarden.Html
