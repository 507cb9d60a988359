/-
Module: SqlMapper.CommandLine.Environment
Purpose: Variables of the process and of files that are loaded over them.
Main exports: Environment, Environment.find?, Environment.load, Environment.settings
-/
import SqlMapper.CommandLine.Error
import SqlMapper.Store.Settings
import SqlMapper.Text.Words

namespace SqlMapper.CommandLine

open SqlMapper.Files SqlMapper.Text

/-!
A file of variables has an assignment `KEY=VALUE` on each line, possibly after
the word `export`; blank lines and lines that start with a number sign are
skipped. The value may stand between quotes of one kind. The lines are read in
order and each assignment takes effect at once, so that a line that cannot be
read leaves those before it in force.
-/

/-- Variables and their values. -/
structure Environment where
  values : Dictionary String
deriving Repr, Inhabited, DecidableEq

/-- The value between quotes of one kind, or the value itself if there are none. -/
def unquoteValue (cs : List Char) : List Char :=
  match cs with
  | quote :: rest =>
      if (quote = '"' ∨ quote = '\'') ∧ rest.getLast? = some quote then rest.dropLast else cs
  | [] => []

/-- A line without the word `export` at its start. -/
def stripExport (cs : List Char) : List Char :=
  let word := "export ".toList
  if word.isPrefixOf cs then cs.drop word.length else cs

/-- The assignment on a line, if there is one; the number says which line it is. -/
def readLine (number : Nat) (line : List Char) :
    Except EnvironmentError (Option (String × String)) :=
  let line := trim line
  if line.isEmpty || line.head? == some '#' then .ok none
  else match cutAt? '=' (stripExport line) with
    | none => .error (.malformedLine number)
    | some (key, value) =>
        let key := trim key
        if key.isEmpty then .error (.emptyKey number)
        else .ok (some (String.ofList key, String.ofList (unquoteValue (trim value))))

namespace Environment

/-- No variables. -/
def empty : Environment := ⟨∅⟩

/-- The environment of a list of variables and their values. -/
def ofList (assignments : List (String × String)) : Environment := ⟨Dictionary.ofList assignments⟩

/-- The value of a variable. -/
def find? (e : Environment) (key : String) : Option String := e.values.find? key

/-- The environment after an assignment. -/
def assign (e : Environment) (key value : String) : Environment :=
  ⟨e.values.insert key value⟩

/-- The settings that the variables make. -/
def settings (e : Environment) : Settings := Settings.fromVariables e.find?

/-- The environment after the assignments on lines, of which the first has the
given number, up to the first line that cannot be read. -/
def loadLines (e : Environment) (number : Nat) :
    List (List Char) → Except EnvironmentError Unit × Environment
  | [] => (.ok (), e)
  | line :: rest =>
      match readLine number line with
      | .error error => (.error error, e)
      | .ok none => e.loadLines (number + 1) rest
      | .ok (some (key, value)) => (e.assign key value).loadLines (number + 1) rest

/-- The environment after the assignments of a text. -/
def loadText (e : Environment) (text : String) : Except EnvironmentError Unit × Environment :=
  e.loadLines 1 (lines text.toList)

/-- The environment after the assignments of a file. -/
def load (e : Environment) (files : FileTree) (path : String) :
    Except EnvironmentError Unit × Environment :=
  match files.readText path with
  | .error cause => (.error (.unreadable path cause), e)
  | .ok text => e.loadText text

end Environment

end SqlMapper.CommandLine
