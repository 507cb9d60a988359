/-
Module: SqlMapper.CommandLine.Error
Purpose: Why a run of the command line tool fails.
Main exports: EnvironmentError, ToolError, ToolError.message
-/
import SqlMapper.Parameter.Record
import SqlMapper.Query.Error

namespace SqlMapper.CommandLine

open SqlMapper.Files SqlMapper.Parameter SqlMapper.Query

/-- Why a file of variables cannot be loaded; lines are counted from one. -/
inductive EnvironmentError where
  | unreadable (path : String) (cause : FileError)
  | malformedLine (number : Nat)
  | emptyKey (number : Nat)
deriving Repr, Inhabited, DecidableEq

/-- The message for a file of variables that cannot be loaded. -/
def EnvironmentError.message : EnvironmentError → String
  | .unreadable path cause =>
      let reason := cause.message
      s!"Failed to read env file {path}: {reason}"
  | .malformedLine number =>
      s!"Invalid env file: malformed line {number} (expected KEY=VALUE)"
  | .emptyKey number => s!"Invalid env file: empty key at line {number}"

/-- Why a run fails. -/
inductive ToolError where
  | unreadable (cause : FileError)
  | notJson
  | parameters (error : RecordError)
  | malformedPair (pair : String)
  | environment (error : EnvironmentError)
  | query (error : QueryError)
  | checkFailed (files : Nat)
deriving Repr, Inhabited, DecidableEq

/-- The message for a run that fails. -/
def ToolError.message : ToolError → String
  | .unreadable cause =>
      let reason := cause.message
      s!"Failed to read file: {reason}"
  | .notJson => "Failed to parse JSON"
  | .parameters error =>
      let reason := error.message
      s!"Invalid parameters: {reason}"
  | .malformedPair pair => s!"Invalid parameter '{pair}', expected NAME=VALUE"
  | .environment error =>
      let reason := error.message
      s!"Configuration error: {reason}"
  | .query error =>
      let reason := error.message
      s!"Failed to render query: {reason}"
  | .checkFailed files => s!"{files} mapper file(s) failed the check"

end SqlMapper.CommandLine
