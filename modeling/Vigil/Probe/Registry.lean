import Std.Data.ExtTreeMap

/-!
# Probe registries

A registry knows probes by the tags that items name them by.
-/

namespace Vigil

/-- Probes by their tags. -/
abbrev Registry (π : Type) := Std.ExtTreeMap String π

/-- The probes that are always there. -/
inductive BuiltinProbe where
  | http
  | tcp
deriving DecidableEq, Repr

namespace Registry

variable {π : Type}

def empty : Registry π := ∅

/-- Adds a probe, in the place of one that has its tag. -/
def register (r : Registry π) (tag : String) (probe : π) : Registry π := r.insert tag probe

/-- The registry of the probes that are always there. -/
def builtin : Registry BuiltinProbe :=
  ((empty.register "http" .http).register "https" .http).register "tcp" .tcp

/-- The tags in order. -/
def tags (r : Registry π) : List String := r.keys

end Registry

end Vigil
