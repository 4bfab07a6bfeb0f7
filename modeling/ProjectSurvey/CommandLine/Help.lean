import ProjectSurvey.CommandLine.Arguments
import ProjectSurvey.Text.Blank

/-! What a command tells about itself: its usage, what it is for, its options and its subcommands. -/

namespace ProjectSurvey.CommandLine

def programName : Text := "project-guard"

/-- The greatest number of characters in a line of help. -/
def helpWidth : Nat := 80

structure CommandSpec where
  name : Text
  operands : List Operand
  summary : Text
  examples : List Text
  options : List OptionSpec

/-- Words on lines of at most `limit` characters. -/
def filled (limit : Nat) (text : Text) : List Text :=
  let (full, line) := (Text.words text).foldl
    (fun (full, line) word =>
      if line.isEmpty then (full, word)
      else if line.length + 1 + word.length ≤ limit then (full, line ++ " " ++ word)
      else (line :: full, word))
    (([] : List Text), ([] : Text))
  (line :: full).reverse

def indented (margin : Nat) (lines : List Text) : List Text :=
  lines.map (List.replicate margin ' ' ++ ·)

/-- As many of the words as go into `limit` characters, three dots standing for the others. -/
def shortened (limit : Nat) (text : Text) : Text :=
  if text.length ≤ limit then text
  else
    let kept := (Text.words text).foldl
      (fun (kept, isOpen) word =>
        let longer := if kept.isEmpty then word else kept ++ " " ++ word
        if isOpen && longer.length + 3 ≤ limit then (longer, true) else (kept, false))
      (([] : Text), true)
    kept.1 ++ "..."

/-- Terms with what they mean beside them, in two columns. -/
def definitions (entries : List (Text × Text)) : List Text :=
  let widest := (entries.map (·.1.length)).foldl max 0
  indented 2 (entries.map fun (term, meaning) =>
    term ++ List.replicate (widest + 2 - term.length) ' ' ++ meaning)

namespace OptionSpec

/-- The option as it is listed: its short name first, and the name of its value. -/
def listed (option : OptionSpec) : Text :=
  Text.join ", " (option.shortName.toList ++ [option.long])
    ++ ((option.value.map fun value => ' ' :: value).getD [])

end OptionSpec

/-- The option that asks for help, which every command has. -/
def helpOption : OptionSpec := ⟨"--help", none, none, "Show this message and exit."⟩

def optionLines (options : List OptionSpec) : List Text :=
  "Options:".toList :: definitions (options.map fun option => (option.listed, option.help))

namespace Operand

/-- An operand as it is listed: in brackets if it may be left out. -/
def listed (operand : Operand) : Text :=
  if operand.default?.isSome then '[' :: operand.name ++ [']'] else operand.name

end Operand

namespace CommandSpec

/-- How the command is called. -/
def path (spec : CommandSpec) : Text :=
  programName ++ " " ++ spec.name

def usage (spec : CommandSpec) : Text :=
  "Usage: " ++ Text.join " " ([spec.path, "[OPTIONS]"] ++ spec.operands.map (·.listed))

def allOptions (spec : CommandSpec) : List OptionSpec :=
  spec.options ++ [helpOption]

def exampleLines (spec : CommandSpec) : List Text :=
  if spec.examples.isEmpty then []
  else
    [] :: indented 2 ["Examples:"] ++
      spec.examples.flatMap fun sample => [] :: indented 6 [sample]

def help (spec : CommandSpec) : Text :=
  Text.unlines (spec.usage :: [] :: indented 2 (filled (helpWidth - 2) spec.summary)
    ++ spec.exampleLines ++ [[]] ++ optionLines spec.allOptions ++ [[]])

end CommandSpec

structure ProgramSpec where
  paragraphs : List Text
  options : List OptionSpec
  commands : List CommandSpec

namespace ProgramSpec

def usage : Text :=
  "Usage: " ++ programName ++ " [OPTIONS] COMMAND [ARGS]..."

def commandLines (spec : ProgramSpec) : List Text :=
  let widest := (spec.commands.map (·.name.length)).foldl max 0
  "Commands:".toList :: definitions (spec.commands.map fun command =>
    (command.name, shortened (helpWidth - 6 - widest) command.summary))

def help (spec : ProgramSpec) : Text :=
  Text.unlines (usage :: spec.paragraphs.flatMap
      (fun paragraph => [] :: indented 2 (filled (helpWidth - 2) paragraph))
    ++ [[]] ++ optionLines spec.options ++ [[]] ++ spec.commandLines ++ [[]])

end ProgramSpec

end ProjectSurvey.CommandLine
