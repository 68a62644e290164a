import Vigil.Toml.Statement

/-!
# TOML documents
-/

namespace Vigil.Toml

/-- A document as far as it was read: its fields, and the path of the table that
the last header has started. -/
structure Document where
  fields : Fields
  current : List String

namespace Document

def empty : Document := ⟨[], []⟩

/-- Adds what a statement says. -/
def extend? (d : Document) : Statement → Option Document
  | .header false path => (define? path d.fields).map (⟨·, path⟩)
  | .header true path => (append? path d.fields).map (⟨·, path⟩)
  | .pair path v => (alter? false (insert? path v) d.current d.fields).map (⟨·, d.current⟩)

end Document

/-- The table that a text writes. -/
def ofText? (text : String) : Option Toml := do
  let d ← (← statements? text).foldlM Document.extend? .empty
  return .table .headed d.fields

end Vigil.Toml
