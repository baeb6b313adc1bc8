import Gatehouse.Text.Blank

/-!
A tree of text files below one directory. Directories exist as far as a file lies below them. A path is
walked name by name: two dots lead up, one dot and an empty name stay.
-/
namespace Gatehouse

structure FileTree where
  files : List (String × String)

namespace FileTree

def names (path : String) : List String := Text.split (· = '/') path

/-- The names on the way to a file, without dots. -/
def place (path : String) : List String := (names path).filter fun n => n ≠ "" && n ≠ "."

def fileAt? (t : FileTree) (spot : List String) : Option String :=
  (t.files.find? fun f => place f.1 = spot).map (·.2)

def isDirectory (t : FileTree) (spot : List String) : Bool :=
  spot.isEmpty || t.files.any fun f => (place f.1).length > spot.length && spot.isPrefixOf (place f.1)

/-- Walks names from a place; every name but the last has to lead to a directory. -/
def walk (t : FileTree) : List String → List String → Option (List String)
  | here, [] => some here
  | here, name :: rest =>
    if !t.isDirectory here then none
    else if name = "" ∨ name = "." then walk t here rest
    else if name = ".." then (if here.isEmpty then none else walk t here.dropLast rest)
    else
      let next := here ++ [name]
      if t.isDirectory next || (t.fileAt? next).isSome then walk t next rest else none

/-- The place that a path leads to. Nothing lies at the empty path or outside the tree. -/
def find? (t : FileTree) (path : String) : Option (List String) :=
  if path.isEmpty || path.startsWith "/" then none else t.walk [] (names path)

def contains (t : FileTree) (path : String) : Bool := (t.find? path).isSome

/-- The text of the file at a path; a directory has none. -/
def read? (t : FileTree) (path : String) : Option String := (t.find? path).bind t.fileAt?

/-- Drops names at the end of a path that lead nowhere. -/
def trimEnd : List String → List String
  | [] => []
  | name :: rest =>
    match trimEnd rest with
    | [] => if name = "" then [] else [name]
    | [last] => if last = "." then [name] else name :: [last]
    | rest => name :: rest

/-- The directory part of a path, empty for a bare name. -/
def parent (path : String) : String :=
  "/".intercalate (trimEnd ((trimEnd (names path)).dropLast))

/-- A path below a directory; a path from the root stays as it is. -/
def join (directory path : String) : String :=
  if path.startsWith "/" || directory.isEmpty then path
  else if directory.endsWith "/" then directory ++ path
  else directory ++ "/" ++ path

end FileTree
end Gatehouse
