import Vigil.Reading.Basic

/-!
# Values in scripts

An operand of a script is a literal or the name of a reading. Numbers, texts and
truth values are compared with their own kind; a text that writes a number is
also compared with numbers.
-/

namespace Vigil.Script

/-- What is wrong with the form of a script. -/
inductive Fault where
  | emptyExpression
  | emptyClause
  | missingOperand
  | unterminatedText (raw : String)
  | invalidOperand (raw : String)
deriving DecidableEq, Repr

/-- Why a script has no value. -/
inductive ScriptError where
  | malformed (fault : Fault)
  | unknownVariable (name : String)
  | typeMismatch (left right : String)
deriving DecidableEq, Repr

def Fault.message : Fault → String
  | emptyExpression => "empty expression"
  | emptyClause => "empty clause"
  | missingOperand => "missing operand"
  | unterminatedText raw => "unterminated string: " ++ raw
  | invalidOperand raw => "invalid operand: " ++ raw

def ScriptError.message : ScriptError → String
  | malformed fault => "syntax error: " ++ fault.message
  | unknownVariable name => "unknown variable: " ++ name
  | typeMismatch left right => "cannot compare " ++ left ++ " with " ++ right

/-- A value in a script. -/
inductive Value where
  | number (x : Float)
  | text (s : String)
  | bool (b : Bool)

namespace Value

/-- The kind of a value, as it is named in errors. -/
def kind : Value → String
  | number _ => "number"
  | text _ => "string"
  | bool _ => "bool"

def ofReading : Reading → Value
  | .number x => number x
  | .text s => text s

/-- A value as a condition by itself. A text is none. -/
def truth : Value → Except ScriptError Bool
  | bool b => .ok b
  | number x => .ok (x != 0.0)
  | text s => .error (.typeMismatch s "bool")

/-- The order of two numbers; there is none if one is undefined. -/
def orderNumbers (x y : Float) : Option Ordering :=
  if x < y then some .lt else if x == y then some .eq else if y < x then some .gt else none

/-- The order of two values. Truth values have one only where equality alone is
asked for. -/
def order (equality : Bool) : Value → Value → Option Ordering
  | number x, number y => orderNumbers x y
  | text s, text t => some (compare s t)
  | text s, number y => (Reading.number? (.text s)).bind (orderNumbers · y)
  | number x, text t => (Reading.number? (.text t)).bind (orderNumbers x)
  | bool a, bool b => if equality then some (compare a b) else none
  | _, _ => none

end Value

/-- A comparison of two operands. -/
inductive Comparison where
  | eq
  | ne
  | lt
  | le
  | gt
  | ge
deriving DecidableEq, Repr

namespace Comparison

/-- The comparison sign at the start of a text, and the rest. -/
def atStart? : List Char → Option (Comparison × List Char)
  | '=' :: '=' :: rest => some (eq, rest)
  | '!' :: '=' :: rest => some (ne, rest)
  | '<' :: '=' :: rest => some (le, rest)
  | '>' :: '=' :: rest => some (ge, rest)
  | '<' :: rest => some (lt, rest)
  | '>' :: rest => some (gt, rest)
  | _ => none

/-- The first comparison sign outside of quotes, with the texts on its two sides. -/
def find? (inQuotes : Bool) : List Char → Option (List Char × Comparison × List Char)
  | [] => none
  | c :: rest =>
    if c = '"' then (find? (!inQuotes) rest).map fun (l, op, r) => (c :: l, op, r)
    else
      match inQuotes, atStart? (c :: rest) with
      | false, some (op, r) => some ([], op, r)
      | _, _ => (find? inQuotes rest).map fun (l, op, r) => (c :: l, op, r)

def isEquality : Comparison → Bool
  | eq => true
  | ne => true
  | _ => false

/-- Whether a comparison holds of two values in this order. -/
def holds : Comparison → Ordering → Bool
  | eq, o => o.isEq
  | ne, o => o.isNe
  | lt, o => o.isLT
  | le, o => o.isLE
  | gt, o => o.isGT
  | ge, o => o.isGE

def apply (op : Comparison) (left right : Value) : Except ScriptError Bool :=
  match Value.order op.isEquality left right with
  | some o => .ok (op.holds o)
  | none => .error (.typeMismatch left.kind right.kind)

end Comparison

end Vigil.Script
