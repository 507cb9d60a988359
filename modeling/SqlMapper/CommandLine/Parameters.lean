/-
Module: SqlMapper.CommandLine.Parameters
Purpose: The parameters that a run is given, from a file and from the command line.
Main exports: readPair, readParameters, collectParameters
-/
import SqlMapper.CommandLine.Error
import SqlMapper.Files.Tree
import SqlMapper.Text.Words

namespace SqlMapper.CommandLine

open SqlMapper.Files SqlMapper.Parameter SqlMapper.Text

/-!
The file comes first: it holds a JSON object, and its errors win over those of
the pairs. Each pair `NAME=VALUE` then takes the place of what its name had
before. Blanks around the name do not count; the value is everything after the
first equals sign.
-/

/-- The name and the value of a pair. -/
def readPair (pair : String) : Except ToolError (String × String) :=
  match cutAt? '=' pair.toList with
  | none => .error (.malformedPair pair)
  | some (name, value) =>
      let name := trim name
      if name.isEmpty then .error (.malformedPair pair)
      else .ok (String.ofList name, String.ofList value)

/-- The parameters in a file. -/
def readParameters (files : FileTree) (path : String) : Except ToolError Record :=
  match files.readText path with
  | .error cause => .error (.unreadable cause)
  | .ok text =>
      match Json.Value.read? text with
      | none => .error .notJson
      | some value =>
          match Record.ofJson value with
          | .ok r => .ok r
          | .error e => .error (.parameters e)

/-- A record after pairs have been put into it. -/
def insertPairs (r : Record) : List String → Except ToolError Record
  | [] => .ok r
  | pair :: rest =>
      match readPair pair with
      | .error e => .error e
      | .ok (name, value) => insertPairs (r.insert name (.string value)) rest

/-- The parameters of a file, if one is given, and of pairs. -/
def collectParameters (files : FileTree) (path : Option String) (pairs : List String) :
    Except ToolError Record :=
  match path with
  | none => insertPairs Record.empty pairs
  | some path =>
      match readParameters files path with
      | .error e => .error e
      | .ok r => insertPairs r pairs

end SqlMapper.CommandLine
