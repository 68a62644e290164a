import Vigil.CommandLine.Options
import Vigil.Decimal.Whole
import Vigil.Health.LogMode

/-!
# Invocations

What the program is asked to do: a command with its options, and a configuration
file, which may be named before the command or after it.
-/

namespace Vigil.CommandLine

/-- An item that is to be added, by the name of its node. -/
structure NewItem where
  node : String
  name : String
  probe : String
  target : String
  intervalSeconds : UInt64
  timeoutSeconds : UInt64
  retry : UInt32
  level : Level
  logMode : LogMode
  script : String
deriving DecidableEq

inductive Command where
  /-- Runs the service until it is interrupted, perhaps with nothing kept. -/
  | run (ephemeral : Bool)
  | add (item : NewItem)
  | list
  /-- Shows the configuration. -/
  | config

/-- A request to the program. -/
structure Invocation where
  configPath : Option String
  command : Command

/-- A number of retries, which is read with a sign. -/
def retries? (text : String) : Option Nat :=
  match text.toList with
  | '-' :: digits => if Decimal.whole? digits = some 0 then some 0 else none
  | digits => Decimal.unsigned? UInt32.size digits

def seconds? (text : String) : Option Nat := Decimal.unsigned? UInt64.size text.toList

/-- The option for the configuration file, which every command takes. -/
def configForm : OptionForm where
  name := "config"
  letter := some 'c'
  placeholder := some "CONFIG"
  help := "Path to config.toml (defaults to $XDG_CONFIG_HOME/netwatch/config.toml)"
  accepts := (!·.isEmpty)

/-- An option with a value and without a letter. -/
def valueForm (name placeholder help : String) (accepts : String → Bool) : OptionForm :=
  ⟨name, none, some placeholder, help, accepts⟩

/-- The options of the command that adds an item. -/
def addForms : List OptionForm :=
  let anything (_ : String) : Bool := true
  [valueForm "node" "NODE" "Owning node name, created if unknown" anything,
    valueForm "name" "NAME" "" anything,
    valueForm "type" "PROBE_TYPE" "Probe type, e.g. http, https or tcp" anything,
    valueForm "target" "TARGET" "URL or host:port" anything,
    valueForm "interval" "INTERVAL" "[default: 60]" fun v => (seconds? v).isSome,
    valueForm "timeout" "TIMEOUT" "[default: 2]" fun v => (seconds? v).isSome,
    valueForm "retry" "RETRY" "[default: 1]" fun v => (retries? v).isSome,
    valueForm "level" "LEVEL" "Severity when failing: info, warn, low or high [default: low]"
      fun v => (Level.ofWord v).isOk,
    valueForm "log-mode" "LOG_MODE" "none, always, onchange or ai [default: none]"
      fun v => (LogMode.ofWord v).isOk,
    valueForm "script" "SCRIPT" ("Pass/fail expression over the result, e.g. " ++
      "\x60rtt < 200 && code == \"200\"\x60") anything]

/-- The item that the options describe, if those that must be given are. -/
def NewItem.ofGiven? (g : Given) : Option NewItem := do
  return {
    node := ← g.lookup "node"
    name := ← g.lookup "name"
    probe := ← g.lookup "type"
    target := ← g.lookup "target"
    intervalSeconds := .ofNat (((g.lookup "interval").bind seconds?).getD 60)
    timeoutSeconds := .ofNat (((g.lookup "timeout").bind seconds?).getD 2)
    retry := .ofNat (((g.lookup "retry").bind retries?).getD 1)
    level := ((g.lookup "level").bind fun v => (Level.ofWord v).toOption).getD .low
    logMode := ((g.lookup "log-mode").bind fun v => (LogMode.ofWord v).toOption).getD .none
    script := (g.lookup "script").getD "" }

/-- A command by its name, what it is for, its options, and what they make of it. -/
structure CommandForm where
  name : String
  help : String
  forms : List OptionForm
  build : Given → Option Command

def runForm : CommandForm where
  name := "run"
  help := "Run the polling engine until Ctrl-C"
  forms := [⟨"ephemeral", none, none,
    "Keep everything in memory instead of the configured database", fun _ => true⟩]
  build g := some (.run (g.any (·.1 == "ephemeral")))

def addForm : CommandForm where
  name := "add"
  help := "Add a monitored item"
  forms := addForms
  build g := (NewItem.ofGiven? g).map .add

def listForm : CommandForm where
  name := "list"
  help := "List monitored items and their current state"
  forms := []
  build _ := some .list

def showForm : CommandForm where
  name := "config"
  help := "Print the effective configuration"
  forms := []
  build _ := some .config

/-- The commands. -/
def commands : List CommandForm := [runForm, addForm, listForm, showForm]

/-- What asking for help about words comes to. -/
def helpOn : List String → Refusal
  | [] => .helpAsked none
  | [name] =>
    if commands.any (·.name == name) || name == "help" then .helpAsked (some name) else .misuse
  | _ => .misuse

namespace Invocation

/-- Reads the words after the name of a command. The configuration file that is
named here goes before one named in front of the command. -/
def ofCommand (outer : Given) (form : CommandForm) (words : List String) :
    Except Refusal Invocation := do
  let (inner, rest) ← (readOptions (form.forms ++ [configForm]) false words []).mapError
    (.within form.name)
  match rest, form.build inner with
  | [], some command => return ⟨inner.lookup "config" <|> outer.lookup "config", command⟩
  | _, _ => throw .misuse

/-- Reads the arguments of the program. -/
def ofArguments (words : List String) : Except Refusal Invocation := do
  let (outer, rest) ← readOptions [configForm] true words []
  match rest with
  | [] => throw .misuse
  | name :: rest =>
    if name = "help" then throw (helpOn rest)
    else match commands.find? (·.name == name) with
      | some form => ofCommand outer form rest
      | none => throw .misuse

end Invocation

end Vigil.CommandLine
