/-!
# Options of a command line

A command takes options, each with a long name and perhaps a letter. The value
of an option follows it as a word of its own, which may not look like an option,
or stands behind an equals sign; behind a letter it may also stand at once. No
option is given twice. Reading stops at the first word that belongs to no option.
-/

namespace Vigil.CommandLine

/-- An option that a command takes. -/
structure OptionForm where
  name : String
  letter : Option Char
  /-- What the value is called in the help; a flag has none. -/
  placeholder : Option String
  help : String
  /-- Which values the option may have. -/
  accepts : String → Bool

/-- Why arguments are not acted upon. -/
inductive Refusal where
  | misuse
  /-- Help is asked for, perhaps on a command. -/
  | helpAsked (command : Option String)
  | versionAsked
deriving DecidableEq, Repr

/-- A refusal of words that stand after the name of a command. -/
def Refusal.within (command : String) : Refusal → Refusal
  | helpAsked none => helpAsked (some command)
  | r => r

/-- The options that were given, by name, with their values; those of flags are
empty. -/
abbrev Given := List (String × String)

/-- What a word on a command line is. -/
inductive Word where
  | plain
  /-- Two hyphens, after which no word is an option. -/
  | separator
  | flag (f : OptionForm)
  | valued (f : OptionForm) (value : String)
  /-- An option whose value is the next word. -/
  | open (f : OptionForm)
  | refused (r : Refusal)

namespace Word

/-- An option with what is attached to it. -/
def ofForm (f : OptionForm) (attached : Option String) : Word :=
  match f.placeholder, attached with
  | none, none => flag f
  | none, some _ => refused .misuse
  | some _, none => .open f
  | some _, some value => valued f value

/-- A word after two hyphens. -/
def ofLong (forms : List OptionForm) (hasVersion : Bool) (s : List Char) : Word :=
  let name := String.ofList (s.takeWhile (· != '='))
  let attached := match s.dropWhile (· != '=') with
    | _ :: value => some (String.ofList value)
    | [] => none
  if name = "help" ∧ attached = none then refused (.helpAsked none)
  else if name = "version" ∧ hasVersion ∧ attached = none then refused .versionAsked
  else match forms.find? (·.name == name) with
    | some f => ofForm f attached
    | none => refused .misuse

/-- A word after one hyphen: its letter and the rest. -/
def ofShort (forms : List OptionForm) (hasVersion : Bool) (letter : Char) (rest : List Char) :
    Word :=
  if letter = 'h' then refused (.helpAsked none)
  else if letter = 'V' ∧ hasVersion then refused .versionAsked
  else match forms.find? (·.letter == some letter) with
    | none => refused .misuse
    | some f => ofForm f <| match rest with
      | [] => none
      | '=' :: value => some (String.ofList value)
      | value => some (String.ofList value)

/-- What a word is to a command. -/
def read (forms : List OptionForm) (hasVersion : Bool) (word : String) : Word :=
  match word.toList with
  | ['-'] => plain
  | ['-', '-'] => separator
  | '-' :: '-' :: rest => ofLong forms hasVersion rest
  | '-' :: letter :: rest => ofShort forms hasVersion letter rest
  | _ => plain

end Word

/-- Whether a word cannot be the value of the option before it. -/
def looksLikeOption (word : String) : Bool := word.startsWith "-" && word != "-"

/-- Adds an option to those that were given. -/
def Given.add (g : Given) (f : OptionForm) (value : String) : Except Refusal Given :=
  if g.any (·.1 == f.name) || !f.accepts value then .error .misuse else .ok (g ++ [(f.name, value)])

/-- Reads options up to the first plain word: the options, and the words from there
on. After the separator nothing may follow. -/
def readOptions (forms : List OptionForm) (hasVersion : Bool) :
    List String → Given → Except Refusal (Given × List String)
  | [], g => .ok (g, [])
  | word :: rest, g =>
    match Word.read forms hasVersion word with
    | .plain => .ok (g, word :: rest)
    | .separator => if rest.isEmpty then .ok (g, []) else .error .misuse
    | .refused r => .error r
    | .flag f => do readOptions forms hasVersion rest (← g.add f "")
    | .valued f value => do readOptions forms hasVersion rest (← g.add f value)
    | .open f =>
      match rest with
      | [] => .error .misuse
      | value :: rest =>
        if looksLikeOption value then .error .misuse
        else do readOptions forms hasVersion rest (← g.add f value)

end Vigil.CommandLine
