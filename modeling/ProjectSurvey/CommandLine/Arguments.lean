import ProjectSurvey.Text.Quoted
import ProjectSurvey.Text.Similarity

/-! The arguments of a command: options, which begin with one or two dashes and may take a value, and
operands. Two dashes alone end the options. -/

namespace ProjectSurvey.CommandLine

structure OptionSpec where
  /-- The name with its two dashes. -/
  long : Text
  short : Option Char
  /-- What its value is called, if it takes one. -/
  value : Option Text
  help : Text

/-- An operand as it is declared; one without a default has to be given. -/
structure Operand where
  name : Text
  default? : Option Text

inductive UsageFault where
  | missingValue (option : Text)
  | unexpectedValue (option : Text)
  | noSuchOption (option : Text) (similar : List Text)
  | missingOperand (name : Text)
  | extraOperands (operands : List Text)
  | missingCommand
  | noSuchCommand (name : Text)
  /-- The value of an option, named by a hint, is no good. -/
  | invalid (hint reason : Text)
  deriving DecidableEq, Repr

/-- What arguments come to: the options given by their long names, with a value if they take one,
and the operands. -/
structure Parsed where
  options : List (Text × Text)
  operands : List Text
  deriving DecidableEq, Repr

namespace OptionSpec

def shortName (option : OptionSpec) : Option Text :=
  option.short.map fun c => ['-', c]

def hint (option : OptionSpec) : Text :=
  Text.join " / " ((option.long :: option.shortName.toList).map Text.quoted)

end OptionSpec

structure Pending where
  option : OptionSpec
  written : Text

/-- What an argument comes to: options that are complete, and perhaps one that is not. -/
structure Taken where
  options : List (Text × Text)
  pending : Option Pending

/-- The option with a long name, with the value that is written with it. -/
def takeLong (options : List OptionSpec) (name : Text) (written : Option Text) :
    Except UsageFault Taken :=
  match options.find? (·.long == name) with
  | none => .error (.noSuchOption name (Text.closeTo name (options.map (·.long))))
  | some option =>
    match option.value, written with
    | none, none => .ok ⟨[(option.long, [])], none⟩
    | none, some _ => .error (.unexpectedValue name)
    | some _, some value => .ok ⟨[(option.long, value)], none⟩
    | some _, none => .ok ⟨[], some ⟨option, name⟩⟩

/-- The options with short names written together; what follows the first that takes a value is that
value. -/
def takeShort (options : List OptionSpec) : Text → Except UsageFault Taken
  | [] => .ok ⟨[], none⟩
  | c :: rest =>
    match options.find? (·.short == some c) with
    | none => .error (.noSuchOption ['-', c] [])
    | some option =>
      match option.value with
      | none => do
        let taken ← takeShort options rest
        .ok { taken with options := (option.long, []) :: taken.options }
      | some _ =>
        if rest.isEmpty then .ok ⟨[], some ⟨option, ['-', c]⟩⟩
        else .ok ⟨[(option.long, rest)], none⟩

def takeOption (options : List OptionSpec) (argument : Text) : Except UsageFault Taken :=
  let (name, written) := argument.cutAt '='
  if "--".toList.isPrefixOf argument then takeLong options name written
  else takeShort options (argument.drop 1)

def isOption (argument : Text) : Bool :=
  argument.head? = some '-' && 1 < argument.length

/-- Reads arguments after those in `done`, of which everything is held backwards. The first operand
ends the options unless they are `mixed` with operands. -/
def parseOnto (options : List OptionSpec) (mixed : Bool) (done : Parsed) (pending : Option Pending) :
    List Text → Except UsageFault Parsed
  | [] =>
    match pending with
    | some waiting => .error (.missingValue waiting.written)
    | none => .ok ⟨done.options.reverse, done.operands.reverse⟩
  | argument :: rest =>
    match pending with
    | some waiting =>
      parseOnto options mixed { done with options := (waiting.option.long, argument) :: done.options }
        none rest
    | none =>
      if argument = "--".toList then .ok ⟨done.options.reverse, done.operands.reverse ++ rest⟩
      else if isOption argument then
        match takeOption options argument with
        | .error fault => .error fault
        | .ok taken =>
          parseOnto options mixed
            { done with options := taken.options.reverse ++ done.options } taken.pending rest
      else if mixed then
        parseOnto options mixed { done with operands := argument :: done.operands } none rest
      else .ok ⟨done.options.reverse, done.operands.reverse ++ argument :: rest⟩

def parse (options : List OptionSpec) (mixed : Bool) (arguments : List Text) :
    Except UsageFault Parsed :=
  parseOnto options mixed ⟨[], []⟩ none arguments

namespace Parsed

/-- The value of an option; of several the last counts. -/
def value? (parsed : Parsed) (long : Text) : Option Text :=
  (parsed.options.reverse.find? (·.1 == long)).map (·.2)

def has (parsed : Parsed) (long : Text) : Bool :=
  parsed.options.any (·.1 == long)

end Parsed

/-- The values of the operands, defaults for those that are left out. -/
def bindOperands : List Operand → List Text → Except UsageFault (List Text)
  | [], [] => .ok []
  | [], extra => .error (.extraOperands extra)
  | operand :: operands, given => do
    match given, operand.default? with
    | value :: rest, _ => .ok (value :: (← bindOperands operands rest))
    | [], some value => .ok (value :: (← bindOperands operands []))
    | [], none => .error (.missingOperand operand.name)

namespace UsageFault

def message : UsageFault → Text
  | .missingValue option => "Option " ++ option.quoted ++ " requires an argument."
  | .unexpectedValue option => "Option " ++ option.quoted ++ " does not take a value."
  | .noSuchOption option similar =>
    "No such option: " ++ option ++
      (match similar with
        | [] => []
        | [only] => " Did you mean " ++ only ++ "?"
        | several => " (Possible options: " ++ Text.join ", " several ++ ")")
  | .missingOperand name => "Missing argument " ++ name.quoted ++ "."
  | .extraOperands operands =>
    "Got unexpected extra argument" ++ (if operands.length = 1 then [] else ['s']) ++ " ("
      ++ Text.join " " operands ++ ")"
  | .missingCommand => "Missing command."
  | .noSuchCommand name => "No such command " ++ name.quoted ++ "."
  | .invalid hint reason => "Invalid value for " ++ hint ++ ": " ++ reason

/-- Whether the message comes with a reminder of the command's usage. -/
def remindsOfUsage : UsageFault → Bool
  | .missingValue _ => false
  | .unexpectedValue _ => false
  | _ => true

end UsageFault

end ProjectSurvey.CommandLine
