import Vigil.Log.Level
import Vigil.Text.Blank

/-!
# Log filters

A filter is a list of directives. A directive sets the verbosity of the targets
that start with a name, or of all targets, and perhaps only of the lines with a
certain field; of the directives that fit a line the most precise one counts, and
of two equally precise ones the later one. A directive may also be tied to a
span. No line here is inside of a span, so such a directive fits none, but it
counts as one.
-/

namespace Vigil

/-- A part of a filter. -/
structure Directive where
  /-- How the targets begin that it fits; all of them do if there is nothing. -/
  target : Option String
  /-- Whether it is tied to a span, or to the value of a field. -/
  inSpan : Bool
  /-- The field that a line must have. -/
  field : Option String
  verbosity : Verbosity
deriving DecidableEq, Repr

namespace Directive

/-- A directive for all lines. -/
def everywhere (v : Verbosity) : Directive := ⟨none, false, none, v⟩

/-- The only field that lines have. -/
def lineField : String := "message"

/-- Whether a directive is about a target. -/
def fits (d : Directive) (target : String) : Bool :=
  !d.inSpan && (d.field.all (· == lineField)) && d.target.all (target.startsWith ·)

/-- The rank of a directive among those that fit: a longer name goes before a
shorter one and any name before none, and then a field before none. -/
def precision (d : Directive) : Nat :=
  2 * (d.target.map fun name => name.utf8ByteSize + 1).getD 0 + d.field.toList.length

/-- Whether a character may begin a directive that is not tied to a span only. -/
def isInitial (c : Char) : Bool :=
  c.isAlphanum || c == '-' || c == ':' || c == '_' || decide (0x80 ≤ c.toNat)

/-- The verbosity at the end of a directive, after an equals sign; without one it
is the greatest. -/
def verbosityAfter? : List Char → Option Verbosity
  | [] => some (.upTo .trace)
  | '=' :: [] => some (.upTo .trace)
  | '=' :: word => Verbosity.ofText? (String.ofList word)
  | _ => none

/-- Reads a span after its opening bracket: a name, with a field in braces after
it, perhaps with a value. It gives whether there is a name or a value, the field,
and the rest of the text. -/
def readSpan? (s : List Char) : Option (Bool × Option String × List Char) :=
  let name := s.takeWhile fun c => c != ']' && c != '{'
  match s.drop name.length with
  | ']' :: rest => some (true, none, rest)
  | '{' :: inner =>
    let field := inner.takeWhile (· != '}')
    match inner.drop field.length with
    | '}' :: ']' :: rest =>
      if field.isEmpty then none
      else some (!name.isEmpty || field.contains '=',
        some (String.ofList (field.takeWhile (· != '='))), rest)
    | _ => none
  | _ => none

/-- Reads a directive: a verbosity, a target, or a target with its verbosity. A
span in brackets may follow the target, or stand alone. Blanks around a directive
belong to its words, so that a target after a blank fits nothing, and what is said
after an equals sign is no verbosity. -/
def ofText? (text : String) : Option Directive := do
  let s := Text.trim text.toList
  let isPlain (c : Char) : Bool := c != '=' && c != '['
  let name := s.takeWhile isPlain
  let target :=
    if name.isEmpty then none
    else if Text.trimStart text.toList = text.toList then some (String.ofList name)
    else some text
  let verbosity? (rest : List Char) : Option Verbosity :=
    if rest.isEmpty ∨ s = text.toList then verbosityAfter? rest else none
  if !(name.head?.map isInitial).getD (s.head? == some '[') then none
  else match s.drop name.length with
    | [] =>
      match Verbosity.ofText? text with
      | some v => return everywhere v
      | none => return ⟨some text, false, none, .upTo .trace⟩
    | '[' :: span =>
      let (inSpan, field, rest) ← readSpan? span
      return ⟨target, inSpan, field, ← verbosity? rest⟩
    | rest => return ⟨target, false, none, ← verbosity? rest⟩

end Directive

/-- What is written to a log, and what is left out. -/
structure LogFilter where
  directives : List Directive

namespace LogFilter

/-- Reads a filter: directives between commas. Those that cannot be read are left
out. A filter without directives has the given verbosity everywhere. -/
def ofText (standard : Verbosity) (text : String) : LogFilter :=
  match (text.splitOn ",").filterMap fun part => if part.isEmpty then none
      else Directive.ofText? part with
  | [] => ⟨[.everywhere standard]⟩
  | ds => ⟨ds⟩

/-- Of two directives that fit, the one that counts; the second one is the later. -/
def prefer (d e : Directive) : Directive := if d.precision ≤ e.precision then e else d

/-- The directive that counts for a target. -/
def directive? (f : LogFilter) (target : String) : Option Directive :=
  match f.directives.filter (·.fits target) with
  | [] => none
  | d :: ds => some (ds.foldl prefer d)

/-- Whether a line is written. -/
def allows (f : LogFilter) (line : LogLine) : Bool :=
  match f.directive? line.target with
  | none => false
  | some d => d.verbosity.allows line.level

end LogFilter

end Vigil
