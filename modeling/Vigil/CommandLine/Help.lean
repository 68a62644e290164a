import Vigil.CommandLine.Invocation

/-!
# Help pages

A page says what a command is for, how it is used, and what its options mean.
-/

namespace Vigil.CommandLine

/-- The name and the version of the program. -/
def versionLine : String := "netwatch 0.1.0\n"

/-- How an option is written, the long names below each other. -/
def OptionForm.usage (f : OptionForm) : String :=
  (match f.letter with
    | some c => "-" ++ c.toString ++ ", "
    | none => "    ") ++ "--" ++ f.name ++
  match f.placeholder with
  | some value => " <" ++ value ++ ">"
  | none => ""

/-- A text filled up with blanks to a width. -/
def padded (s : String) (width : Nat) : String :=
  s ++ String.ofList (List.replicate (width - s.length) ' ')

/-- Two columns, the second one under itself. -/
def columns (rows : List (String × String)) : String :=
  let width := (rows.map fun (left, _) => left.length).foldl max 0
  String.join (rows.map fun (left, right) => "  " ++ padded left width ++ "  " ++ right ++ "\n")

def helpForm : OptionForm := ⟨"help", some 'h', none, "Print help", fun _ => true⟩

def versionForm : OptionForm := ⟨"version", some 'V', none, "Print version", fun _ => true⟩

/-- The options of a page. -/
def optionRows (forms : List OptionForm) : List (String × String) :=
  forms.map fun f => (f.usage, f.help)

/-- What the command that shows the pages is for. -/
def helpHelp : String := "Print this message or the help of the given subcommand(s)"

/-- The page of the whole program. -/
def programPage : String :=
  "Polls network nodes and tracks the health of each check\n\n" ++
  "Usage: netwatch [OPTIONS] <COMMAND>\n\nCommands:\n" ++
  columns ((commands.map fun c => (c.name, c.help)) ++ [("help", helpHelp)]) ++
  "\nOptions:\n" ++ columns (optionRows [configForm, helpForm, versionForm])

/-- The options that a command cannot do without. -/
def required : List String := ["node", "name", "type", "target"]

/-- The page of a command. -/
def commandPage (c : CommandForm) : String :=
  let needed := c.forms.filter fun f => required.contains f.name
  c.help ++ "\n\nUsage: netwatch " ++ c.name ++ " [OPTIONS]" ++
  String.join (needed.map fun f => " " ++ (f.usage.drop 4).toString) ++
  "\n\nOptions:\n" ++ columns (optionRows (c.forms ++ [configForm, helpForm]))

/-- The page of the command that shows these pages. -/
def helpOnHelp : String :=
  helpHelp ++ "\n\nUsage: netwatch help [COMMAND]...\n\nArguments:\n" ++
  columns [("[COMMAND]...", "Print help for the subcommand(s)")]

/-- The page of a command by its name, or of the whole program. -/
def helpPage : Option String → String
  | none => programPage
  | some name =>
    match commands.find? (·.name == name) with
    | some c => commandPage c
    | none => helpOnHelp

end Vigil.CommandLine
