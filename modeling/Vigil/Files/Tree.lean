import Vigil.Files.Path

/-!
# Trees of files

A tree holds directories and files with octets. Paths lead to them from the
root; two dots lead to the directory above, and the root is above itself.
-/

namespace Vigil

/-- Why an operation on files fails. -/
inductive FileError where
  | missing
  | taken
  | notDirectory
  | isDirectory
  | nameTooLong
  | badName
  /-- The octets of a file are no text. -/
  | notText
deriving DecidableEq, Repr

def FileError.message : FileError → String
  | missing => "No such file or directory (os error 2)"
  | taken => "File exists (os error 17)"
  | notDirectory => "Not a directory (os error 20)"
  | isDirectory => "Is a directory (os error 21)"
  | nameTooLong => "File name too long (os error 36)"
  | badName => "file name contained an unexpected NUL byte"
  | notText => "stream did not contain valid UTF-8"

/-- What a path can lead to. -/
inductive FileEntry where
  | directory
  | file (octets : List UInt8)
deriving DecidableEq

/-- Where an entry stands: the names from the root. -/
abbrev Place := List String

/-- The entries of a tree, apart from its root. -/
structure FileTree where
  entries : List (Place × FileEntry)

namespace FileTree

def empty : FileTree := ⟨[]⟩

/-- The entry at a place. -/
def entry? (t : FileTree) (place : Place) : Option FileEntry :=
  if place = [] then some .directory else t.entries.lookup place

/-- The tree with another entry at a place. -/
def set (t : FileTree) (place : Place) (e : FileEntry) : FileTree :=
  ⟨(place, e) :: t.entries.filter (·.1 != place)⟩

/-- The longest name of an entry, in octets. -/
def longestName : Nat := 255

/-- The place that parts of a path lead to from a directory. All but the last one
must be directories; the last one need not exist. -/
def walk (t : FileTree) (here : Place) : List String → Except FileError Place
  | [] => .ok here
  | p :: ps =>
    if p = ".." then walk t here.dropLast ps
    else if p.utf8ByteSize > longestName then .error .nameTooLong
    else
      let next := here ++ [p]
      if ps = [] then .ok next
      else match t.entry? next with
        | none => .error .missing
        | some (.file _) => .error .notDirectory
        | some .directory => walk t next ps

/-- The place that a path leads to. -/
def locate (t : FileTree) (path : String) : Except FileError Place :=
  if path.toList.contains '\x00' then .error .badName
  else t.walk [] ((Path.parts path.toList).map String.ofList)

/-- The entry that a path leads to. A path that ends in a slash leads to no file. -/
def lookup (t : FileTree) (path : String) : Except FileError FileEntry := do
  match t.entry? (← t.locate path) with
  | none => throw .missing
  | some (.file octets) => if path.endsWith "/" then throw .notDirectory else return .file octets
  | some .directory => return .directory

def contains (t : FileTree) (path : String) : Bool := (t.lookup path).isOk

/-- The octets of a file. -/
def read (t : FileTree) (path : String) : Except FileError (List UInt8) := do
  match ← t.lookup path with
  | .directory => throw .isDirectory
  | .file octets => return octets

/-- The text in a file. -/
def readText (t : FileTree) (path : String) : Except FileError String := do
  match String.fromUTF8? ⟨(← t.read path).toArray⟩ with
  | some text => return text
  | none => throw .notText

/-- The place of the file that is to be written at a path. -/
def placeOfFile (t : FileTree) (path : String) : Except FileError Place := do
  let place ← t.locate path
  if path.endsWith "/" then throw .isDirectory
  match t.entry? place with
  | some .directory => throw .isDirectory
  | _ => return place

/-- Writes a file, in the place of one that is there. -/
def write (t : FileTree) (path : String) (octets : List UInt8) : Except FileError FileTree := do
  return t.set (← t.placeOfFile path) (.file octets)

/-- Appends to a file, which comes to be if it is not there. -/
def append (t : FileTree) (path : String) (octets : List UInt8) : Except FileError FileTree := do
  let place ← t.placeOfFile path
  let old := match t.entry? place with
    | some (.file old) => old
    | _ => []
  return t.set place (.file (old ++ octets))

/-- Makes the directories that parts of a path lead through from a directory. The
tree is given also when it fails, with those that were made. -/
def makeDirectories (t : FileTree) (here : Place) : List String → Except FileError Unit × FileTree
  | [] => (.ok (), t)
  | p :: ps =>
    if p = ".." then makeDirectories t here.dropLast ps
    else if p.toList.contains '\x00' then (.error .badName, t)
    else if p.utf8ByteSize > longestName then (.error .nameTooLong, t)
    else
      let next := here ++ [p]
      match t.entry? next with
      | none => makeDirectories (t.set next .directory) next ps
      | some .directory => makeDirectories t next ps
      | some (.file _) => (.error (if ps = [] then .taken else .notDirectory), t)

/-- Makes the directories in front of the name of a file. -/
def makeParents (t : FileTree) (path : String) : Except FileError Unit × FileTree :=
  t.makeDirectories [] ((Path.parts path.toList).map String.ofList).dropLast

/-- The octets of a file in a later tree, if it was another one before. -/
def revision? (before after : FileTree) (path : String) : Option (List UInt8) :=
  (after.read path).toOption.filter fun octets => (before.read path).toOption != some octets

/-- The paths of all entries in order; those of directories end in a slash. -/
def listing (t : FileTree) : List String :=
  (t.entries.map fun (place, e) =>
    "/".intercalate place ++ match e with
      | .directory => "/"
      | .file _ => "").mergeSort fun a b => decide (a ≤ b)

end FileTree

end Vigil
