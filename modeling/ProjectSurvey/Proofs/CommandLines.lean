import ProjectSurvey.CommandLine.Run

/-! The command lines that run a tool: what their options and operands are taken for. -/

namespace ProjectSurvey.CommandLine

section Arguments

variable {options : List OptionSpec} {done : Parsed} {rest : List Text}

theorem not_isOption {argument : Text} (plain : argument.head? ≠ some '-') :
    isOption argument = false := by
  simp [isOption, plain]

theorem parseOnto_operand {argument : Text} (plain : argument.head? ≠ some '-') :
    parseOnto options true done none (argument :: rest) =
      parseOnto options true { done with operands := argument :: done.operands } none rest := by
  have noEnd : argument ≠ "--".toList := by
    rintro rfl
    exact plain rfl
  simp only [parseOnto, noEnd, not_isOption plain, Bool.false_eq_true, ite_false, ite_true]

theorem parseOnto_command {argument : Text} (plain : argument.head? ≠ some '-') :
    parseOnto options false done none (argument :: rest) =
      .ok ⟨done.options.reverse, done.operands.reverse ++ argument :: rest⟩ := by
  have noEnd : argument ≠ "--".toList := by
    rintro rfl
    exact plain rfl
  simp only [parseOnto, noEnd, not_isOption plain, Bool.false_eq_true, ite_false]

variable {mixed : Bool} {argument long value : Text}

theorem parseOnto_flag (isOne : isOption argument = true) (noEnd : argument ≠ "--".toList)
    (taken : takeOption options argument = .ok ⟨[(long, [])], none⟩) :
    parseOnto options mixed done none (argument :: rest) =
      parseOnto options mixed { done with options := (long, []) :: done.options } none rest := by
  simp only [parseOnto, noEnd, isOne, taken, ite_false, ite_true, List.reverse_cons, List.reverse_nil,
    List.nil_append, List.singleton_append]

theorem parseOnto_valued {option : OptionSpec} (isOne : isOption argument = true)
    (noEnd : argument ≠ "--".toList)
    (taken : takeOption options argument = .ok ⟨[], some ⟨option, argument⟩⟩) :
    parseOnto options mixed done none (argument :: value :: rest) =
      parseOnto options mixed { done with options := (option.long, value) :: done.options } none
        rest := by
  simp only [parseOnto, noEnd, isOne, taken, ite_false, ite_true, List.reverse_nil, List.nil_append]

end Arguments

/-- A command line, at the start of which the usage log may be turned off. -/
def leading (quiet : Bool) (rest : List Text) : List Text :=
  if quiet then "--no-usage-log".toList :: rest else rest

/-- What the options of the program come to there where the environment names `directory` for usage logs. -/
def Options.leading (quiet : Bool) (directory : Option Text) : Options :=
  ⟨false, quiet, given? directory, none⟩

theorem parse_leading (quiet : Bool) {name : Text} (plain : name.head? ≠ some '-') (rest : List Text) :
    parse program.options false (leading quiet (name :: rest)) =
      .ok ⟨if quiet then [("--no-usage-log".toList, [])] else [], name :: rest⟩ := by
  cases quiet with
  | false => exact parseOnto_command plain
  | true =>
    refine (parseOnto_flag rfl (by decide) (by rfl)).trans ?_
    exact parseOnto_command plain

theorem start_leading (quiet : Bool) (directory : Option Text) (place : Place) {name : Text}
    (plain : name.head? ≠ some '-') (rest : List Text) :
    Start.ofArguments directory place (leading quiet (name :: rest)) =
      .ok (.rest (Options.leading quiet directory) (name :: rest)) := by
  rw [Start.ofArguments, parse_leading quiet plain]
  cases quiet <;> rfl

/-- A command line that names a command is read as its declaration says. -/
theorem wish_leading (quiet : Bool) (directory : Option Text) (place : Place) {spec : CommandSpec}
    (known : program.commands.find? (·.name == spec.name) = some spec)
    (plain : spec.name.head? ≠ some '-') (rest : List Text) :
    Wish.ofArguments directory place (leading quiet (spec.name :: rest)) =
      (Wish.ofCommand (Options.leading quiet directory) spec rest).mapError (.command spec) := by
  have some : (leading quiet (spec.name :: rest)).isEmpty = false := by cases quiet <;> rfl
  simp only [Wish.ofArguments, some, start_leading quiet directory place plain, bind, Except.bind, known,
    Bool.false_eq_true, ite_false]

private theorem known_call : program.commands.find? (·.name == callSpec.name) = some callSpec := rfl

private theorem known_search : program.commands.find? (·.name == searchSpec.name) = some searchSpec := rfl

private theorem known_analyze : program.commands.find? (·.name == analyzeSpec.name) = some analyzeSpec :=
  rfl

section Commands

variable (quiet : Bool) (directory : Option Text) (place : Place)

/-- The command line that calls a tool with arguments. -/
def callLine (name arguments path : Text) : List Text :=
  leading quiet ["call", name, "--args", arguments, "--path", path]

/-- The command line that searches for a category and a term. -/
def searchLine (category path term : Text) : List Text :=
  leading quiet ["search", category, path, "--term", term, "--json-only"]

/-- The command line that analyses a project, with a category or without. -/
def analyzeLine (path : Text) (category : Option Text) : List Text :=
  match category with
  | some category => leading quiet ["analyze", path, "--category", category, "--json-only"]
  | none => leading quiet ["analyze", path, "--json-only"]

theorem wish_call {name : Text} (plain : name.head? ≠ some '-') (arguments path : Text) :
    Wish.ofArguments directory place (callLine quiet name arguments path) =
      .ok (.run (Options.leading quiet directory) (.call name arguments path)) := by
  have parsed : parse callSpec.allOptions true [name, "--args", arguments, "--path", path] =
      .ok ⟨[("--args", arguments), ("--path", path)], [name]⟩ := by
    rw [parse, parseOnto_operand plain, parseOnto_valued rfl (by decide) (by rfl),
      parseOnto_valued rfl (by decide) (by rfl)]
    rfl
  have named := wish_leading quiet directory place known_call (by decide)
    [name, "--args", arguments, "--path", path]
  refine named.trans ?_
  rw [Wish.ofCommand, parsed]
  rfl

theorem wish_search {category path : Text} (plain : category.head? ≠ some '-')
    (pathPlain : path.head? ≠ some '-') (term : Text) :
    Wish.ofArguments directory place (searchLine quiet category path term) =
      .ok (.run (Options.leading quiet directory) (.search category path term true)) := by
  have parsed : parse searchSpec.allOptions true [category, path, "--term", term, "--json-only"] =
      .ok ⟨[("--term", term), ("--json-only", [])], [category, path]⟩ := by
    rw [parse, parseOnto_operand plain, parseOnto_operand pathPlain,
      parseOnto_valued rfl (by decide) (by rfl), parseOnto_flag rfl (by decide) (by rfl)]
    rfl
  have named := wish_leading quiet directory place known_search (by decide)
    [category, path, "--term", term, "--json-only"]
  refine named.trans ?_
  rw [Wish.ofCommand, parsed]
  rfl

theorem wish_analyze {path : Text} (plain : path.head? ≠ some '-') (category : Option Text) :
    Wish.ofArguments directory place (analyzeLine quiet path category) =
      .ok (.run (Options.leading quiet directory) (.analyze path category true)) := by
  cases category with
  | none =>
    have parsed : parse analyzeSpec.allOptions true [path, "--json-only"] =
        .ok ⟨[("--json-only", [])], [path]⟩ := by
      rw [parse, parseOnto_operand plain, parseOnto_flag rfl (by decide) (by rfl)]
      rfl
    have named := wish_leading quiet directory place known_analyze (by decide) [path, "--json-only"]
    refine named.trans ?_
    rw [Wish.ofCommand, parsed]
    rfl
  | some category =>
    have parsed : parse analyzeSpec.allOptions true [path, "--category", category, "--json-only"] =
        .ok ⟨[("--category", category), ("--json-only", [])], [path]⟩ := by
      rw [parse, parseOnto_operand plain, parseOnto_valued rfl (by decide) (by rfl),
        parseOnto_flag rfl (by decide) (by rfl)]
      rfl
    have named := wish_leading quiet directory place known_analyze (by decide)
      [path, "--category", category, "--json-only"]
    refine named.trans ?_
    rw [Wish.ofCommand, parsed]
    rfl

end Commands

end ProjectSurvey.CommandLine
