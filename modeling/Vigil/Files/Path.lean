/-!
# Paths of files

A path is a text with slashes between its parts. Empty parts count as nothing,
and so do parts that are one dot. The last part is the name of the file unless
it is two dots; a name ends in an extension if a dot stands in it after its
first character.
-/

namespace Vigil.Path

/-- The parts of a path. -/
def parts (path : List Char) : List (List Char) :=
  (path.splitOn '/').filter fun p => !p.isEmpty && p != ['.']

/-- The paths of the directories that a path leads through, the outermost first,
and the path itself. -/
def stages (path : String) : List String :=
  let root := if path.startsWith "/" then "/" else ""
  let names := (parts path.toList).map String.ofList
  (List.range names.length).map fun n => root ++ "/".intercalate (names.take (n + 1))

/-- A path within a directory. -/
def join (directory path : String) : String :=
  if path.startsWith "/" ∨ directory.isEmpty then path
  else if directory.endsWith "/" then directory ++ path
  else directory ++ "/" ++ path

/-- A path without the slashes, and the parts of one dot, at its end. -/
def trimEnd (path : List Char) : List Char :=
  go path.reverse |>.reverse
where
  go : List Char → List Char
    | '/' :: rest => go rest
    | '.' :: '/' :: rest => go ('/' :: rest)
    | rest => rest

/-- The path up to the name of the file, and the name. -/
def cutName? (path : List Char) : Option (List Char × List Char) :=
  let trimmed := (trimEnd path).reverse
  let name := (trimmed.takeWhile (· != '/')).reverse
  if name = [] ∨ name = ['.'] ∨ name = ['.', '.'] then none
  else some ((trimmed.dropWhile (· != '/')).reverse, name)

/-- The stem of a name and its extension, which follows the last dot. A name that
starts with its only dot is all stem. -/
def cutExtension (name : List Char) : List Char × Option (List Char) :=
  let r := name.reverse
  let extension := (r.takeWhile (· != '.')).reverse
  match r.dropWhile (· != '.') with
  | [] => (name, none)
  | [_] => (name, none)
  | _ :: stem => (stem.reverse, some extension)

/-- A path whose name has the given extension; any other one is replaced. A path
that ends in no name stays as it is. -/
def withExtension (extension path : String) : String :=
  match cutName? path.toList with
  | none => path
  | some (directory, name) =>
    let (stem, old) := cutExtension name
    if old = some extension.toList then path
    else String.ofList (directory ++ stem ++ ['.'] ++ extension.toList)

end Vigil.Path
