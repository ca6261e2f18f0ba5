import MarkupHarden.Proofs.Html.Scanning

/-!
# Runs of the scanner

Whatever a scanner of a markup is asked, it does not crash: it matches a lexer
that is asked the same, so every index that it stops at is between characters.
A token moves it ahead, and at the end of the markup there are no more tokens,
also when text is to be read in another way from there on.
-/

namespace MarkupHarden.Html

/-! ### Answers of a lexer -/

/-- Whether a token is asked for. -/
def Scanner.Call.asks : Scanner.Call → Bool
  | .next => true
  | .enter _ => false

namespace Lexer

theorem length_run (lexer : Lexer) (calls : List Scanner.Call) :
    (lexer.run calls).1.length = calls.countP Scanner.Call.asks := by
  induction calls generalizing lexer with
  | nil => rfl
  | cons call calls induction =>
      cases call with
      | enter switch => exact induction { lexer with switch }
      | next =>
          rw [run, List.countP_cons_of_pos rfl]
          exact congrArg (· + 1) (induction lexer.next.2)

theorem content_rest_of_none {chars : List Char}
    (done : (content chars).1 = none) : (content chars).2.rest = [] := by
  unfold content at done ⊢
  split at done
  next unread => rfl
  next => contradiction

/-- Without a token the markup is at an end. -/
theorem next_rest_of_none {lexer : Lexer} (done : lexer.next.1 = none) :
    lexer.next.2.rest = [] := by
  unfold next at done ⊢
  generalize lexer.switch = switch at done ⊢
  cases switch with
  | none => exact content_rest_of_none done
  | some switch =>
      dsimp only at done ⊢
      split at done
      next empty =>
        rw [if_pos empty]
        exact content_rest_of_none done
      next => contradiction

theorem next_of_rest_nil {lexer : Lexer} (atEnd : lexer.rest = []) :
    lexer.next = (none, { rest := [] }) := by
  unfold next
  rw [atEnd]
  cases lexer.switch with
  | none => simp [content, readContent?]
  | some switch =>
      have split := switch.split_append []
      obtain ⟨noText, noRest⟩ := List.append_eq_nil_iff.mp split
      dsimp only
      rw [noText, noRest]
      simp [content, readContent?]

theorem run_of_rest_nil {lexer : Lexer} (atEnd : lexer.rest = [])
    (calls : List Scanner.Call) :
    ∃ blanks, (lexer.run calls).1 = List.replicate blanks none := by
  induction calls generalizing lexer with
  | nil => exact ⟨0, rfl⟩
  | cons call calls induction =>
      cases call with
      | enter switch => exact @induction { lexer with switch } atEnd
      | next =>
          obtain ⟨blanks, later⟩ := @induction { rest := [] } rfl
          refine ⟨blanks + 1, ?_⟩
          rw [run, next_of_rest_nil atEnd, List.replicate_succ, ← later]

/-- All tokens come before the first call that gives none. -/
theorem run_answers (lexer : Lexer) (calls : List Scanner.Call) :
    ∃ (tokens : List Token) (blanks : Nat),
      (lexer.run calls).1 =
        tokens.map some ++ List.replicate blanks none := by
  induction calls generalizing lexer with
  | nil => exact ⟨[], 0, rfl⟩
  | cons call calls induction =>
      cases call with
      | enter switch => exact induction { lexer with switch }
      | next =>
          rw [run]
          cases answer : lexer.next.1 with
          | none =>
              obtain ⟨blanks, later⟩ :=
                run_of_rest_nil (next_rest_of_none answer) calls
              refine ⟨[], blanks + 1, ?_⟩
              dsimp only
              rw [answer, later]
              rfl
          | some token =>
              obtain ⟨tokens, blanks, later⟩ := induction lexer.next.2
              refine ⟨token :: tokens, blanks, ?_⟩
              dsimp only
              rw [answer, later]
              rfl

end Lexer

namespace Scanner

variable {input : String} {index : Nat} {chars : List Char}

/-! ### A scanner beside a lexer -/

/-- A scanner that reads on where a lexer does. -/
structure Matches (input : String) (scanner : Scanner) (lexer : Lexer) :
    Prop where
  sameInput : scanner.input = input
  sameSwitch : scanner.switch = lexer.switch
  stands : Stands input scanner.position lexer.rest

theorem matches_start (input : String) :
    Matches input (ofMarkup input) (.ofMarkup input) :=
  ⟨rfl, rfl, stands_start input⟩

variable {scanner : Scanner} {lexer : Lexer}

theorem Matches.enter (both : Matches input scanner lexer)
    (switch : TextSwitch) :
    Matches input { scanner with switch } { lexer with switch } :=
  ⟨both.sameInput, rfl, both.stands⟩

private theorem content_matches (stands : Stands input index chars) :
    ∃ next, content input index = .ok ((Lexer.content chars).1, next) ∧
      Matches input { input, position := next } (Lexer.content chars).2 := by
  obtain ⟨next, read, behind⟩ := content_reads stands
  unfold Lexer.content
  cases found : readContent? chars with
  | none =>
      rw [found] at read behind
      exact ⟨next, read, rfl, rfl, behind⟩
  | some part =>
      rw [found] at read behind
      exact ⟨next, read, rfl, rfl, behind⟩

/-- The scanner does not crash, gives the token that the lexer gives, and still
matches it. -/
theorem Matches.next (both : Matches input scanner lexer) :
    ∃ after, scanner.next = .ok (lexer.next.1, after) ∧
      Matches input after lexer.next.2 := by
  obtain ⟨sameInput, sameSwitch, stands⟩ := both
  unfold Scanner.next Lexer.next
  rw [sameInput, sameSwitch]
  cases lexer.switch with
  | none =>
      obtain ⟨next, read, behind⟩ := content_matches stands
      exact ⟨_, by simp only [read]; rfl, behind⟩
  | some switch =>
      have reached := endOf_stands switch stands
      have whole := switch.split_append lexer.rest
      have stop_eq := (whole.symm ▸ stands).stop_eq reached
      dsimp only
      generalize endOf input switch scanner.position = stop at reached stop_eq ⊢
      generalize switch.split lexer.rest = parts at reached whole stop_eq ⊢
      obtain ⟨text, rest⟩ := parts
      cases text with
      | nil =>
          obtain ⟨next, read, behind⟩ := content_matches reached
          have still : stop = scanner.position := stop_eq
          rw [if_pos still]
          exact ⟨_, by simp only [read]; rfl, behind⟩
      | cons c text =>
          have positive := Text.length_utf8EncodeChar_pos c
          have moved : stop ≠ scanner.position := by
            rw [stop_eq, Text.utf8_cons, List.length_append]
            omega
          rw [if_neg moved, stands.slice reached whole]
          exact ⟨_, rfl, rfl, rfl, reached⟩

/-- A token moves the scanner ahead. -/
theorem Matches.advances (both : Matches input scanner lexer) {token : Token}
    {after : Scanner} (read : scanner.next = .ok (some token, after)) :
    scanner.position < after.position := by
  obtain ⟨reached, sameRead, still⟩ := both.next
  rw [read] at sameRead
  obtain ⟨sameToken, rfl⟩ := Prod.mk.inj (Except.ok.inj sameRead)
  have shorter := Lexer.next_length (Prod.ext sameToken.symm rfl)
  exact both.stands.lt_of_length_lt still.stands shorter

/-- Nor does it ever go back. -/
theorem Matches.le (both : Matches input scanner lexer)
    {answer : Option Token} {after : Scanner}
    (read : scanner.next = .ok (answer, after)) :
    scanner.position ≤ after.position := by
  cases answer with
  | some token => exact (both.advances read).le
  | none =>
      obtain ⟨reached, sameRead, still⟩ := both.next
      rw [read] at sameRead
      obtain ⟨done, rfl⟩ := Prod.mk.inj (Except.ok.inj sameRead)
      have atEnd := still.stands
      rw [Lexer.next_rest_of_none done.symm] at atEnd
      have last : after.position = input.utf8ByteSize := atEnd.add_length
      rw [last]
      exact both.stands.le

/-- Step by step the two give the same answers, and the scanner moves on by a
byte at least for each token. -/
theorem Matches.run (both : Matches input scanner lexer) (calls : List Call) :
    ∃ last, scanner.run calls = .ok ((lexer.run calls).1, last) ∧
      Matches input last (lexer.run calls).2 ∧
      scanner.position + (lexer.run calls).1.countP Option.isSome ≤
        last.position := by
  induction calls generalizing scanner lexer with
  | nil => exact ⟨scanner, rfl, both, Nat.le_refl _⟩
  | cons call calls induction =>
      cases call with
      | enter switch => exact induction (both.enter switch)
      | next =>
          obtain ⟨after, read, still⟩ := both.next
          obtain ⟨last, readAll, behind, count⟩ := induction still
          refine ⟨last, ?_, behind, ?_⟩
          · simp only [Scanner.run, read, bind, Except.bind, readAll]
            rfl
          · rw [Lexer.run]
            dsimp only
            cases answer : lexer.next.1 with
            | none =>
                have back := both.le read
                rw [List.countP_cons_of_neg (by simp)]
                omega
            | some token =>
                rw [answer] at read
                have ahead := both.advances read
                rw [List.countP_cons_of_pos (by simp)]
                omega

/-- Whatever a scanner of a markup is asked, it answers without a crash and as
the lexer does.  It is always inside the markup and between characters, the next
call does not make it crash either, and a token moves it ahead.  It gives at
most as many tokens as the markup has bytes; every other call for a token comes
behind them and gives none. -/
theorem run_total (input : String) (calls : List Call) :
    ∃ (tokens : List Token) (blanks : Nat) (last : Scanner),
      (ofMarkup input).run calls =
          .ok (tokens.map some ++ List.replicate blanks none, last) ∧
        ((Lexer.ofMarkup input).run calls).1 =
          tokens.map some ++ List.replicate blanks none ∧
        tokens.length + blanks = calls.countP Call.asks ∧
        tokens.length ≤ last.position ∧
        last.position ≤ input.utf8ByteSize ∧
        (⟨last.position⟩ : String.Pos.Raw).IsValid input ∧
        ∃ answer after, last.next = .ok (answer, after) ∧
          (answer.isSome → last.position < after.position) := by
  obtain ⟨last, read, behind, count⟩ := (matches_start input).run calls
  obtain ⟨tokens, blanks, answers⟩ :=
    (Lexer.ofMarkup input).run_answers calls
  obtain ⟨after, readNext, -⟩ := behind.next
  have length := (Lexer.ofMarkup input).length_run calls
  rw [answers] at read count length
  refine ⟨tokens, blanks, last, read, answers, by simpa using length, ?_,
    behind.stands.le, behind.stands.isValid, _, after, readNext, ?_⟩
  · simpa [ofMarkup, List.countP_map, List.countP_replicate,
      Function.comp_def] using count
  · intro isToken
    obtain ⟨token, answer⟩ := Option.isSome_iff_exists.mp isToken
    rw [answer] at readNext
    exact behind.advances readNext

end Scanner

end MarkupHarden.Html
