/-
Module: SqlMapper.Files.Tree
Purpose: Trees of files and directories, what a path names in one, and why it cannot be read.
Main exports: FileError, FileError.message, Entry, joinPath, FileTree, FileTree.find,
  FileTree.isFile, FileTree.readText, FileTree.list, FileTree.write, FileTree.remove
-/

namespace SqlMapper.Files

/-!
A path is followed component by component from the top of the tree if it starts
with a slash, and from the working directory otherwise. Empty components and
single dots stay where they are, two dots lead to the directory above (the top
is above itself), and every component needs a directory to be looked up in. So
a path that ends in a slash names a directory or nothing.

Writing makes the directories that its path leads through, also those that two
dots leave again, and keeps what a directory holds.

The tree idealises what it stands for. Every file and directory in it can be read and
written, whoever asks: there are no permissions. It holds files and directories alone, no
links and no special files, and their names are texts. Listing a directory gives all of its
names and does not fail on the way, and between two operations nothing changes. So reading
and listing fail only for the causes below, and what is shown of listing a directory and
reading the files in it, that the two agree, is shown of such trees.
-/

/-- Why a path cannot be read as what it should be. -/
inductive FileError where
  | notFound
  | notADirectory
  | isADirectory
  | nameTooLong
  | nulByte
  | notText
deriving Repr, Inhabited, DecidableEq

/-- The message for a path that cannot be read. -/
def FileError.message : FileError → String
  | .notFound => "No such file or directory (os error 2)"
  | .notADirectory => "Not a directory (os error 20)"
  | .isADirectory => "Is a directory (os error 21)"
  | .nameTooLong => "File name too long (os error 36)"
  | .nulByte => "file name contained an unexpected NUL byte"
  | .notText => "stream did not contain valid UTF-8"

/-- A file with its bytes, or a directory with what it holds. -/
inductive Entry where
  | file (bytes : ByteArray)
  | directory (entries : List (String × Entry))
deriving Inhabited

namespace Entry

/-- The entries of a directory. -/
def entries : Entry → List (String × Entry)
  | .file _ => []
  | .directory entries => entries

/-- Put an entry under a name, in place of the one that was there. -/
def put (name : String) (entry : Entry) : List (String × Entry) → List (String × Entry)
  | [] => [(name, entry)]
  | other :: rest =>
      if other.1 = name then (name, entry) :: rest else other :: put name entry rest

/-- What stands at a place after an entry was written there: a file takes the
place of a file, a directory adds what is not there yet to a directory, and
otherwise what was there stays. -/
def overwrite : Entry → Option Entry → Entry
  | entry, none => entry
  | .file bytes, some (.file _) => .file bytes
  | .directory added, some (.directory entries) =>
      .directory (entries ++ added.filter fun entry => (entries.lookup entry.1).isNone)
  | _, some old => old

/-- What stands somewhere after an entry was written at a place inside it:
directories that are missing on the way are made, and a file on the way stays. -/
def writeAt (entry : Entry) : List String → Option Entry → Entry
  | [], old => overwrite entry old
  | name :: rest, none => .directory [(name, writeAt entry rest none)]
  | _ :: _, some (.file bytes) => .file bytes
  | name :: rest, some (.directory entries) =>
      .directory (put name (writeAt entry rest (entries.lookup name)) entries)

/-- An entry without what stands at a place in it. -/
def removeAt : List String → Entry → Entry
  | [], entry => entry
  | [name], entry => .directory (entry.entries.filter (·.1 != name))
  | name :: rest, entry =>
      match entry.entries.lookup name with
      | none => entry
      | some below => .directory (put name (removeAt rest below) entry.entries)

end Entry

/-- The longest name of an entry, in bytes. -/
def longestName : Nat := 255

/-- The longest path, in bytes. -/
def longestPath : Nat := 4095

/-- The path of a name in the directory that a path names. -/
def joinPath (directory name : String) : String :=
  match directory.toList.getLast? with
  | none => name
  | some '/' => directory ++ name
  | some _ => directory ++ "/" ++ name

/-- The components of a path. -/
def components (path : List Char) : List String :=
  path.foldr
    (fun c rest =>
      if c = '/' then "" :: rest
      else match rest with
        | [] => [String.singleton c]
        | name :: others => (String.singleton c ++ name) :: others)
    [""]

/-- Follow components from an entry, with the steps that led to it given from
the inside to the outside: each is a name and the directory it was looked up in. -/
def follow : Entry → List (String × Entry) → List String →
    Except FileError (Entry × List (String × Entry))
  | entry, above, [] => .ok (entry, above)
  | .file _, _, _ :: _ => .error .notADirectory
  | .directory entries, above, name :: rest =>
      if name = "" ∨ name = "." then follow (.directory entries) above rest
      else if name = ".." then
        match above with
        | [] => follow (.directory entries) [] rest
        | (_, parent) :: above => follow parent above rest
      else if longestName < name.utf8ByteSize then .error .nameTooLong
      else match entries.lookup name with
        | none => .error .notFound
        | some entry => follow entry ((name, .directory entries) :: above) rest

/-- Where a component leads from a place; a place is the names that lead to it,
given from the inside to the outside. -/
def goTo (place : List String) (name : String) : List String :=
  if name = "" ∨ name = "." then place
  else if name = ".." then place.tail
  else name :: place

/-- The names that lead from the top to where components lead. -/
def normalize (names : List String) : List String := (names.foldl goTo []).reverse

/-- Write an entry where components lead from a place, with a directory at the
place and at every place on the way. -/
def writeAlong (entry : Entry) (place : List String) (top : Entry) : List String → Entry
  | [] => Entry.writeAt entry place.reverse (some top)
  | name :: rest =>
      let top := Entry.writeAt (.directory []) place.reverse (some top)
      writeAlong entry (goTo place name) top rest

/-- A tree of files, and the directory in which paths start. -/
structure FileTree where
  top : Entry
  workingDirectory : List String
deriving Inhabited

namespace FileTree

/-- The tree with nothing in it but a working directory at a place. -/
def emptyAt (place : List String) : FileTree :=
  ⟨Entry.writeAt (.directory []) place none, place⟩

/-- What a path names, with the steps that lead to it. -/
def locate (t : FileTree) (path : String) : Except FileError (Entry × List (String × Entry)) :=
  let cs := path.toList
  if '\x00' ∈ cs then .error .nulByte
  else if longestPath < path.utf8ByteSize then .error .nameTooLong
  else match cs with
    | [] => .error .notFound
    | '/' :: _ => follow t.top [] (components cs)
    | _ => follow t.top [] (t.workingDirectory ++ components cs)

/-- What a path names. -/
def find (t : FileTree) (path : String) : Except FileError Entry := (t.locate path).map (·.1)

/-- Whether a path names a file. -/
def isFile (t : FileTree) (path : String) : Bool :=
  match t.find path with
  | .ok (.file _) => true
  | _ => false

/-- The text of the file that a path names. -/
def readText (t : FileTree) (path : String) : Except FileError String :=
  match t.find path with
  | .error e => .error e
  | .ok (.directory _) => .error .isADirectory
  | .ok (.file bytes) =>
      match String.fromUTF8? bytes with
      | some text => .ok text
      | none => .error .notText

/-- The names in the directory that a path names. -/
def list (t : FileTree) (path : String) : Except FileError (List String) :=
  match t.find path with
  | .error e => .error e
  | .ok (.file _) => .error .notADirectory
  | .ok (.directory entries) => .ok (entries.map (·.1))

/-- The tree with an entry written where a path says. -/
def write (t : FileTree) (path : String) (entry : Entry) : FileTree :=
  let cs := path.toList
  let start := if cs.head? = some '/' then [] else t.workingDirectory.reverse
  ⟨writeAlong entry start t.top (components cs), t.workingDirectory⟩

/-- The tree without what a path names. -/
def remove (t : FileTree) (path : String) : FileTree :=
  match t.locate path with
  | .error _ => t
  | .ok (_, above) => ⟨Entry.removeAt (above.reverse.map (·.1)) t.top, t.workingDirectory⟩

end FileTree

/-- The entry of a file with a text. -/
def textFile (text : String) : Entry := .file text.toByteArray

end SqlMapper.Files
