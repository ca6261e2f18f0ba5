import MarkupHarden.CommandLine.Arguments

/-!
# Arguments that name the input

Arguments that are not the value of an option and not options themselves name
the input.  Reading accepts any number of requests for standard input and then
at most one file; where a single one of these arguments stands does not matter.
-/

namespace MarkupHarden.CommandLine

/-- Options that take the next argument as their value. -/
def takesValue (argument : String) : Bool :=
  ["--base-url", "--config", "--output", "-o", "--rules", "--charset"].contains
    argument

/-- Arguments that name an input: standard input, or a file. -/
def isPositional (argument : String) : Bool :=
  argument = "-" || argument.toList.head? ≠ some '-'

/-- The input that such an argument names; standard input has no name. -/
def inputOf (argument : String) : Option String :=
  if argument = "-" then none else some argument

/-- The arguments that are not the value of an option. -/
def remaining : List String → List String
  | [] => []
  | [argument] => [argument]
  | argument :: next :: rest =>
      if takesValue argument then argument :: remaining rest
      else argument :: remaining (next :: rest)

/-- Whether the last option has its value. -/
def isComplete : List String → Bool
  | [] => true
  | [argument] => !takesValue argument
  | argument :: next :: rest =>
      if takesValue argument then isComplete rest
      else isComplete (next :: rest)

/-- The arguments that name an input, in order. -/
def positionals (arguments : List String) : List String :=
  (remaining arguments).filter isPositional

/-- Whether help is asked for anywhere. -/
def AsksForHelp (arguments : List String) : Prop :=
  ∃ argument ∈ remaining arguments, argument = "-h" ∨ argument = "--help"

/-! ### Parts -/

/-- What kind an argument is of, said of its text. -/
structure Classified (argument : String) (kind : Argument) : Prop where
  takesValue : takesValue argument = true ↔ ∃ option, kind = .option option
  isPositional : isPositional argument = true ↔
    kind = .standardInput ∨ kind = .file
  standardInput : kind = .standardInput ↔ argument = "-"
  help : kind = .help ↔ argument = "-h" ∨ argument = "--help"

theorem classified (argument : String) :
    Classified argument (Argument.of argument) := by
  unfold Argument.of
  split
  case h_13 =>
    split <;>
      constructor <;>
        simp_all [takesValue, isPositional]
  all_goals
    constructor <;>
      simp [takesValue, isPositional]

/-- A flag, or an option with its value, and what it does to an invocation. -/
inductive OptionPart :
    List String → (Invocation → Except UsageFault Invocation) → Prop where
  | wholeDocument {argument : String} :
      Argument.of argument = .wholeDocument →
      OptionPart [argument] fun invocation =>
        .ok { invocation with wholeDocument := true }
  | verbose {argument : String} :
      Argument.of argument = .verbose →
      OptionPart [argument] fun invocation =>
        .ok { invocation with verbose := true }
  | valued {argument value : String} {option : ValueOption} :
      Argument.of argument = .option option →
      OptionPart [argument, value] fun invocation =>
        invocation.store option value

/-- Arguments behind whose first one nothing is read. -/
inductive Stops : List String → Except UsageFault Command → Prop where
  | help {argument : String} {rest : List String} :
      Argument.of argument = .help → Stops (argument :: rest) (.ok .help)
  | unknown {argument : String} {rest : List String} :
      Argument.of argument = .unknown →
      Stops (argument :: rest) (.error (.unknownOption argument))
  | withoutValue {argument : String} {option : ValueOption} :
      Argument.of argument = .option option →
      Stops [argument] (.error (.missingValue argument))

/-- The parts in which arguments are read. -/
inductive InParts : List String → Prop where
  | nil : InParts []
  | stop {arguments : List String} {outcome : Except UsageFault Command} :
      Stops arguments outcome → InParts arguments
  | option {part rest : List String}
      {take : Invocation → Except UsageFault Invocation} :
      OptionPart part take → InParts rest → InParts (part ++ rest)
  | input {argument : String} {rest : List String} :
      isPositional argument = true → InParts rest →
      InParts (argument :: rest)

private theorem inParts_cons {argument : String} {rest : List String}
    (single : takesValue argument = false) (behind : InParts rest) :
    InParts (argument :: rest) := by
  have known := classified argument
  cases kind : Argument.of argument with
  | help => exact .stop (.help kind)
  | unknown => exact .stop (.unknown kind)
  | wholeDocument => exact .option (.wholeDocument kind) behind
  | verbose => exact .option (.verbose kind) behind
  | option option =>
      rw [known.takesValue.mpr ⟨option, kind⟩] at single
      contradiction
  | standardInput =>
      exact .input (known.isPositional.mpr (Or.inl kind)) behind
  | file => exact .input (known.isPositional.mpr (Or.inr kind)) behind

theorem inParts (arguments : List String) : InParts arguments := by
  fun_induction remaining arguments with
  | case1 => exact .nil
  | case2 argument =>
      cases takes : takesValue argument with
      | false => exact inParts_cons takes .nil
      | true =>
          obtain ⟨option, isOption⟩ :=
            (classified argument).takesValue.mp takes
          exact .stop (.withoutValue isOption)
  | case3 argument value rest takes induction =>
      obtain ⟨option, isOption⟩ := (classified argument).takesValue.mp takes
      exact .option (.valued isOption) induction
  | case4 argument next rest single induction =>
      exact inParts_cons (Bool.eq_false_iff.mpr single) induction

/-! ### What parts look like -/

variable {argument : String} {kind : Argument} {part rest : List String}
  {take : Invocation → Except UsageFault Invocation}

private theorem not_takesValue (isKind : Argument.of argument = kind)
    (noOption : ∀ option, kind ≠ .option option) :
    takesValue argument = false := by
  have known : Classified argument kind := isKind ▸ classified argument
  rw [Bool.eq_false_iff, ne_eq, known.takesValue]
  rintro ⟨option, same⟩
  exact noOption option same

private theorem not_isPositional (isKind : Argument.of argument = kind)
    (noInput : kind ≠ .standardInput ∧ kind ≠ .file) :
    isPositional argument = false := by
  have known : Classified argument kind := isKind ▸ classified argument
  rw [Bool.eq_false_iff, ne_eq, known.isPositional, not_or]
  exact noInput

private theorem not_takesValue_of_isPositional
    (names : isPositional argument = true) : takesValue argument = false := by
  rcases (classified argument).isPositional.mp names with isInput | isFile
  · exact not_takesValue isInput nofun
  · exact not_takesValue isFile nofun

theorem remaining_cons (single : takesValue argument = false) :
    remaining (argument :: rest) = argument :: remaining rest := by
  cases rest with
  | nil => rfl
  | cons next rest =>
      rw [remaining, single]
      rfl

theorem isComplete_cons (single : takesValue argument = false) :
    isComplete (argument :: rest) = isComplete rest := by
  cases rest with
  | nil =>
      unfold isComplete
      rw [single]
      rfl
  | cons next rest =>
      rw [isComplete, single]
      rfl

/-- Behind complete arguments the next ones are no values. -/
theorem remaining_append {front : List String}
    (complete : isComplete front = true) (back : List String) :
    remaining (front ++ back) = remaining front ++ remaining back := by
  fun_induction remaining front with
  | case1 => rfl
  | case2 argument =>
      rw [isComplete, Bool.not_eq_true'] at complete
      exact remaining_cons complete
  | case3 argument value rest takes induction =>
      rw [isComplete, if_pos takes] at complete
      rw [List.cons_append, List.cons_append, remaining, if_pos takes,
        induction complete, List.cons_append]
  | case4 argument next rest single induction =>
      rw [isComplete, if_neg single] at complete
      rw [List.cons_append, remaining_cons (Bool.eq_false_iff.mpr single),
        induction complete, List.cons_append]

theorem positionals_append {front : List String}
    (complete : isComplete front = true) (back : List String) :
    positionals (front ++ back) = positionals front ++ positionals back := by
  rw [positionals, remaining_append complete, List.filter_append]
  rfl

namespace OptionPart

theorem remaining (isPart : OptionPart part take) (rest : List String) :
    ∃ argument, remaining (part ++ rest) = argument :: remaining rest ∧
      isPositional argument = false := by
  cases isPart with
  | @wholeDocument argument isFlag | @verbose argument isFlag =>
      exact ⟨argument, remaining_cons (not_takesValue isFlag nofun),
        not_isPositional isFlag ⟨nofun, nofun⟩⟩
  | @valued argument value option isOption =>
      have takes := (classified argument).takesValue.mpr ⟨option, isOption⟩
      exact ⟨argument, if_pos takes,
        not_isPositional isOption ⟨nofun, nofun⟩⟩

theorem isComplete (isPart : OptionPart part take) (rest : List String) :
    isComplete (part ++ rest) = isComplete rest := by
  cases isPart with
  | wholeDocument isFlag | verbose isFlag =>
      exact isComplete_cons (not_takesValue isFlag nofun)
  | @valued argument value option isOption =>
      have takes := (classified argument).takesValue.mpr ⟨option, isOption⟩
      exact if_pos takes

theorem positionals (isPart : OptionPart part take) (rest : List String) :
    positionals (part ++ rest) = positionals rest := by
  obtain ⟨argument, remains, noInput⟩ := isPart.remaining rest
  rw [CommandLine.positionals, remains,
    List.filter_cons_of_neg (Bool.eq_false_iff.mp noInput)]
  rfl

end OptionPart

theorem positionals_input (names : isPositional argument = true) :
    positionals (argument :: rest) = argument :: positionals rest := by
  rw [positionals, remaining_cons (not_takesValue_of_isPositional names),
    List.filter_cons_of_pos names]
  rfl

/-! ### What parts do -/

namespace Invocation

variable {invocation next : Invocation}

def withInput (input : Option String) (invocation : Invocation) : Invocation :=
  { invocation with input }

theorem storeInput_of_none (nothing : invocation.input = none)
    (input : Option String) :
    invocation.storeInput input = .ok (invocation.withInput input) := by
  rw [storeInput, nothing]
  rfl

theorem storeInput_of_some {file : String}
    (named : invocation.input = some file) (input : Option String) :
    invocation.storeInput input = .error .severalInputs := by
  rw [storeInput, named]
  rfl

end Invocation

namespace OptionPart

variable {invocation next : Invocation}

/-- Options do not look at the input. -/
theorem withInput (isPart : OptionPart part take) (invocation : Invocation)
    (input : Option String) :
    take (invocation.withInput input) =
      (take invocation).map (Invocation.withInput input) := by
  cases isPart with
  | wholeDocument | verbose => rfl
  | @valued argument value option isOption =>
      cases option with
      | baseUrl | config | output => rfl
      | rules =>
          unfold Invocation.store
          cases readRules value with
          | error fault => rfl
          | ok rules => rfl
      | charset =>
          unfold Invocation.store
          cases readCharset value with
          | error fault => rfl
          | ok charset => rfl

theorem input (isPart : OptionPart part take)
    (taken : take invocation = .ok next) : next.input = invocation.input := by
  have same := isPart.withInput invocation invocation.input
  change take invocation = _ at same
  rw [taken] at same
  calc
    next.input = (next.withInput invocation.input).input :=
      congrArg Invocation.input (Except.ok.inj same)
    _ = invocation.input := rfl

end OptionPart

namespace Command

variable {invocation : Invocation}

private theorem exists_of_bind {α β : Type} {first : Except UsageFault α}
    {later : α → Except UsageFault β} {result : β}
    (read : first.bind later = .ok result) :
    ∃ value, first = .ok value ∧ later value = .ok result := by
  cases first with
  | error fault => contradiction
  | ok value => exact ⟨value, rfl, read⟩

theorem readFrom_part (isPart : OptionPart part take) :
    readFrom invocation (part ++ rest) =
      (take invocation).bind fun next => readFrom next rest := by
  cases isPart with
  | wholeDocument isFlag | verbose isFlag =>
      rw [List.singleton_append]
      simp only [readFrom, isFlag]
      rfl
  | @valued argument value option isOption =>
      change readFrom invocation (argument :: value :: rest) = _
      rw [readFrom.eq_def]
      simp only [isOption]
      cases invocation.store option value <;> rfl

theorem readFrom_stops {arguments : List String}
    {outcome : Except UsageFault Command} (stops : Stops arguments outcome) :
    readFrom invocation arguments = outcome := by
  cases stops with
  | help isKind | unknown isKind =>
      simp only [readFrom, isKind]
  | withoutValue isOption =>
      rw [readFrom.eq_def]
      simp only [isOption]

theorem readFrom_input (names : isPositional argument = true) :
    readFrom invocation (argument :: rest) =
      (invocation.storeInput (inputOf argument)).bind fun next =>
        readFrom next rest := by
  have known := classified argument
  rcases known.isPositional.mp names with isInput | isFile
  · rw [inputOf, if_pos (known.standardInput.mp isInput)]
    simp only [readFrom, isInput]
    cases invocation.storeInput none <;> rfl
  · have notDash : argument ≠ "-" := by
      rw [ne_eq, ← known.standardInput, isFile]
      nofun
    rw [inputOf, if_neg notDash]
    simp only [readFrom, isFile]
    cases invocation.storeInput (some argument) <;> rfl

/-- A run reads the last of the arguments that name an input; all before it
name standard input. -/
theorem positionals_of_readFrom {arguments : List String} {result : Invocation}
    (read : readFrom invocation arguments = .ok (.run result)) :
    ∃ count, invocation.input.toList ++ positionals arguments =
      List.replicate count "-" ++ result.input.toList := by
  induction inParts arguments generalizing invocation with
  | nil =>
      cases read
      exact ⟨0, List.append_nil _⟩
  | stop stops =>
      rw [readFrom_stops stops] at read
      cases stops <;> cases read
  | @option part rest take isPart _ induction =>
      rw [readFrom_part isPart] at read
      obtain ⟨next, taken, read⟩ := exists_of_bind read
      rw [isPart.positionals, ← isPart.input taken]
      exact induction read
  | @input argument rest names _ induction =>
      rw [readFrom_input names] at read
      cases named : invocation.input with
      | some file =>
          rw [Invocation.storeInput_of_some named] at read
          cases read
      | none =>
          rw [Invocation.storeInput_of_none named] at read
          obtain ⟨count, split⟩ := induction read
          rw [positionals_input names]
          by_cases isDash : argument = "-"
          · subst isDash
            exact ⟨count + 1, congrArg ("-" :: ·) split⟩
          · rw [inputOf, if_neg isDash] at split
            exact ⟨count, split⟩

/-- What a command becomes when another input is named. -/
def withInput (input : Option String) : Command → Command
  | help => help
  | run invocation => run (invocation.withInput input)

/-- Arguments that name no input do not look at the input. -/
theorem readFrom_withInput {arguments : List String}
    (nothing : positionals arguments = []) (invocation : Invocation)
    (input : Option String) :
    readFrom (invocation.withInput input) arguments =
      (readFrom invocation arguments).map (withInput input) := by
  induction inParts arguments generalizing invocation with
  | nil => rfl
  | stop stops =>
      rw [readFrom_stops stops, readFrom_stops stops]
      cases stops <;> rfl
  | @option part rest take isPart _ induction =>
      rw [isPart.positionals] at nothing
      rw [readFrom_part isPart, readFrom_part isPart, isPart.withInput]
      cases take invocation with
      | error fault => rfl
      | ok next => exact induction nothing next
  | input names =>
      rw [positionals_input names] at nothing
      contradiction

/-- How reading goes on behind arguments that have been read. -/
def continue? (arguments : List String) : Command → Except UsageFault Command
  | help => .ok help
  | run invocation => readFrom invocation arguments

/-- Complete arguments are read on their own. -/
theorem readFrom_append {arguments : List String}
    (complete : isComplete arguments = true) (invocation : Invocation)
    (behind : List String) :
    readFrom invocation (arguments ++ behind) =
      (readFrom invocation arguments).bind (continue? behind) := by
  induction inParts arguments generalizing invocation with
  | nil => rfl
  | stop stops =>
      rw [readFrom_stops stops]
      cases stops with
      | help isHelp => exact readFrom_stops (.help isHelp)
      | unknown isUnknown => exact readFrom_stops (.unknown isUnknown)
      | @withoutValue argument option isOption =>
          have takes := (classified argument).takesValue.mpr ⟨option, isOption⟩
          rw [isComplete, takes] at complete
          contradiction
  | @option part rest take isPart _ induction =>
      rw [isPart.isComplete] at complete
      rw [List.append_assoc, readFrom_part isPart, readFrom_part isPart]
      cases take invocation with
      | error fault => rfl
      | ok next => exact induction complete next
  | @input argument rest names _ induction =>
      rw [isComplete_cons (not_takesValue_of_isPositional names)] at complete
      rw [List.cons_append, readFrom_input names, readFrom_input names]
      cases invocation.storeInput (inputOf argument) with
      | error fault => rfl
      | ok next => exact induction complete next

theorem asksForHelp_of_readFrom {arguments : List String}
    (read : readFrom invocation arguments = .ok .help) :
    AsksForHelp arguments := by
  induction inParts arguments generalizing invocation with
  | nil => cases read
  | stop stops =>
      rw [readFrom_stops stops] at read
      cases stops with
      | @help argument rest isHelp =>
          have known := classified argument
          have single := not_takesValue isHelp nofun
          refine ⟨argument, ?_, known.help.mp isHelp⟩
          rw [remaining_cons single]
          exact List.mem_cons_self
      | unknown | withoutValue => cases read
  | @option part rest take isPart _ induction =>
      rw [readFrom_part isPart] at read
      obtain ⟨next, -, read⟩ := exists_of_bind read
      obtain ⟨help, member, isHelp⟩ := induction read
      obtain ⟨argument, remains, -⟩ := isPart.remaining rest
      exact ⟨help, remains ▸ List.mem_cons_of_mem _ member, isHelp⟩
  | @input argument rest names _ induction =>
      rw [readFrom_input names] at read
      obtain ⟨next, -, read⟩ := exists_of_bind read
      obtain ⟨help, member, isHelp⟩ := induction read
      have single := not_takesValue_of_isPositional names
      exact ⟨help, remaining_cons single ▸ List.mem_cons_of_mem _ member,
        isHelp⟩

/-! ### Which inputs are accepted -/

/-- In a run all arguments that name an input name standard input, but for the
last one, which is what the run reads. -/
theorem positionals_of_read {arguments : List String}
    (accepted : read arguments = .ok (.run invocation)) :
    ∃ count, positionals arguments =
      List.replicate count "-" ++ invocation.input.toList :=
  positionals_of_readFrom accepted

private theorem eq_dash_of_mem_dropLast {count : Nat} {input : Option String}
    (member : argument ∈ (List.replicate count "-" ++ input.toList).dropLast) :
    argument = "-" := by
  cases input with
  | none =>
      rw [Option.toList_none, List.append_nil] at member
      exact List.eq_of_mem_replicate ((List.dropLast_sublist _).subset member)
  | some file =>
      rw [Option.toList_some, List.dropLast_concat] at member
      exact List.eq_of_mem_replicate member

/-- A file with another input behind it is refused. -/
theorem read_refused {arguments front behind : List String}
    {file next : String} (noHelp : ¬AsksForHelp arguments)
    (named : positionals arguments = front ++ file :: next :: behind)
    (isFile : file ≠ "-") : ∃ fault, read arguments = .error fault := by
  cases result : read arguments with
  | error fault => exact ⟨fault, rfl⟩
  | ok command =>
      cases command with
      | help => exact absurd (asksForHelp_of_readFrom result) noHelp
      | run invocation =>
          obtain ⟨count, dashes⟩ := positionals_of_read result
          have inside : file ∈ (positionals arguments).dropLast := by
            rw [named]
            simp
          rw [dashes] at inside
          exact absurd (eq_dash_of_mem_dropLast inside) isFile

/-- A single argument that names the input may stand anywhere between the other
arguments. -/
theorem read_insert {front back : List String}
    (names : isPositional argument = true)
    (complete : isComplete front = true)
    (nothing : positionals (front ++ back) = []) :
    read (front ++ argument :: back) =
      (read (front ++ back)).map (withInput (inputOf argument)) := by
  rw [positionals_append complete, List.append_eq_nil_iff] at nothing
  obtain ⟨inFront, inBack⟩ := nothing
  unfold read
  rw [readFrom_append complete, readFrom_append complete]
  cases before : readFrom {} front with
  | error fault => rfl
  | ok command =>
      cases command with
      | help => rfl
      | run invocation =>
          have noInput : invocation.input = none := by
            obtain ⟨count, split⟩ := positionals_of_readFrom before
            rw [inFront] at split
            have noFile := (List.append_eq_nil_iff.mp split.symm).2
            exact Option.toList_eq_nil_iff.mp noFile
          change readFrom invocation (argument :: back) =
            (readFrom invocation back).map _
          rw [readFrom_input names, Invocation.storeInput_of_none noInput,
            ← readFrom_withInput inBack]
          rfl

theorem read_moved {front back front' back' : List String}
    (names : isPositional argument = true)
    (complete : isComplete front = true)
    (complete' : isComplete front' = true)
    (same : front ++ back = front' ++ back')
    (nothing : positionals (front ++ back) = []) :
    read (front ++ argument :: back) = read (front' ++ argument :: back') := by
  rw [read_insert names complete nothing,
    read_insert names complete' (same ▸ nothing), same]

/-- Standard input is forgotten when a file is named behind it, but not when it
is named behind a file. -/
theorem read_standardInput_file :
    read ["-", "page.html"] = .ok (.run { input := some "page.html" }) ∧
      read ["page.html", "-"] = .error .severalInputs :=
  ⟨rfl, rfl⟩

end Command

end MarkupHarden.CommandLine
