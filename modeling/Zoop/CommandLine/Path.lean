/-!
# Paths

Paths of files: their parts, their extension, and what they lead to in a tree of files that is held in
memory.
-/

namespace Zoop.CommandLine

namespace Path

/-- A text cut at each slash. -/
def split : List Char → List (List Char)
  | [] => [[]]
  | character :: rest =>
      if character = '/' then
        [] :: split rest
      else
        match split rest with
        | [] => [[character]]
        | part :: others => (character :: part) :: others

/-- The parts of a path, as the slashes part them. -/
def parts (path : String) : List String :=
  (split path.toList).map String.ofList

/-- The name that a path ends with.  Slashes and single dots at the end do not count, and two dots are
no name. -/
def fileName? (path : String) : Option String :=
  ((parts path).filter fun part => part ≠ "" && part ≠ ".").getLast?.filter fun part => part ≠ ".."

/-- The part of a name after its last dot, if something stands before that dot. -/
def nameExtension? (name : List Char) : Option (List Char) :=
  let reversed := name.reverse
  match reversed.dropWhile (· ≠ '.') with
  | _ :: _ :: _ => some (reversed.takeWhile (· ≠ '.')).reverse
  | _ => none

/-- The extension of the name that a path ends with. -/
def extension? (path : String) : Option String :=
  (fileName? path).bind fun name => (nameExtension? name.toList).map String.ofList

end Path

/-- A tree of files: the files by their paths from the root, and directories that may be empty. -/
structure FileTree where
  /-- The files with their bytes. -/
  files : List (String × List UInt8)
  /-- The directories. -/
  directories : List String

namespace FileTree

/-- The directories of a tree, as lists of parts: those listed, those that files lie in, and all
directories above them. -/
def directoryParts (tree : FileTree) : List (List String) :=
  let listed := tree.directories.map Path.parts
  let holding := tree.files.map fun file => (Path.parts file.1).dropLast
  [] :: (listed ++ holding).flatMap fun parts =>
    (List.range (parts.length + 1)).map fun count => parts.take count

/-- Follow the parts of a path from a directory.  All but the last part have to lead to
directories. -/
def follow? (tree : FileTree) : List String → List String → Option (List UInt8)
  | _, [] => none
  | directory, part :: rest =>
      if part = "" ∨ part = "." then
        follow? tree directory rest
      else if part = ".." then
        if directory.isEmpty then none else follow? tree directory.dropLast rest
      else
        let reached := directory ++ [part]
        if tree.directoryParts.contains reached then
          follow? tree reached rest
        else if rest.isEmpty then
          (tree.files.find? fun file => Path.parts file.1 == reached).map fun file => file.2
        else
          none

/-- The bytes of the file that a path leads to.  Paths start at the root of the tree. -/
def read? (tree : FileTree) (path : String) : Option (List UInt8) :=
  if path.toList.head? = some '/' then
    none
  else
    tree.follow? [] (Path.parts path)

end FileTree

end Zoop.CommandLine
