import RemoteTerm.Bytes
/-!
Paths, what comes of reading the file at one, and a disk that exists in memory only.
-/

namespace RemoteTerm

-- What comes of reading a file.
inductive Reading where
  | missing
  -- There is something, but not a file that can be read.
  | unreadable
  | content (bytes : Bytes)
deriving DecidableEq, Repr

namespace Path

-- A relative path below another one. A slash is put between the two where it is needed.
def join (base below : String) : String :=
  if base = "" ∨ base.toList.getLast? = some '/' then base ++ below else base ++ "/" ++ below

-- The names between the slashes of a path, some of which may be empty.
def names : List Char → List (List Char)
  | [] => [[]]
  | '/' :: cs => [] :: names cs
  | c :: cs =>
    match names cs with
    | []      => [[c]]
    | n :: ns => (c :: n) :: ns

-- The most bytes that a name and a path may have.
def longestName : Nat := 255

def longestPath : Nat := 4095

end Path

-- A disk that holds some files and directories by their full names. Whatever leads to them is a
-- directory as well.
structure Disk where
  directories : List (List (List Char)) := []
  files       : List (List (List Char) × Bytes) := []

namespace Disk

-- The full name at the end of a path without dots.
def fullName (path : String) : List (List Char) :=
  (Path.names path.toList).filter (· ≠ [])

-- The disk with one more file.
def write (d : Disk) (path : String) (bytes : Bytes) : Disk :=
  { d with files := (fullName path, bytes) :: d.files }

-- The disk with one more directory.
def makeDirectory (d : Disk) (path : String) : Disk :=
  { d with directories := fullName path :: d.directories }

-- Where a path has led so far.
inductive Place where
  | directory (name : List (List Char))
  | file (bytes : Bytes)
deriving DecidableEq, Repr

-- What a directory holds under a name.
def enter? (d : Disk) (dir : List (List Char)) (name : List Char) : Option Place :=
  let full := dir ++ [name]
  match d.files.lookup full with
  | some bytes => some (.file bytes)
  | none =>
    if (d.directories ++ d.files.map Prod.fst).any full.isPrefixOf then some (.directory full)
    else none

-- Follows the names of a path. A name behind a file, even an empty one, leads nowhere.
def follow (d : Disk) : Place → List (List Char) → Reading
  | .directory _, [] => .unreadable
  | .file bytes, []  => .content bytes
  | .file _, _ :: _  => .unreadable
  | .directory dir, name :: names =>
    if name = [] ∨ name = ['.'] then d.follow (.directory dir) names
    else if name = ['.', '.'] then d.follow (.directory dir.dropLast) names
    else if Path.longestName < (String.ofList name).utf8ByteSize then .unreadable
    else
      match d.enter? dir name with
      | some place => d.follow place names
      | none       => .missing

-- Reads the file at a path, which begins at the root with or without a slash.
def read (d : Disk) (path : String) : Reading :=
  let cs := path.toList
  if cs.contains '\x00' ∨ Path.longestPath < path.utf8ByteSize then .unreadable
  else if cs = [] then .missing
  else d.follow (.directory []) (Path.names cs)

end Disk

end RemoteTerm
