/-
Module: SqlMapper.CommandLine.Program
Purpose: What a run of the command line tool prints and how it ends.
Main exports: Failure, Outcome, Request.files, Request.run, run
-/
import SqlMapper.CommandLine.Arguments
import SqlMapper.CommandLine.Environment
import SqlMapper.CommandLine.Parameters
import SqlMapper.CommandLine.Report

namespace SqlMapper.CommandLine

open SqlMapper.Files SqlMapper.Query

/-- How a run fails. -/
inductive Failure where
  | usage
  | tool (error : ToolError)
deriving Repr, Inhabited, DecidableEq

/-- What a run prints, and how it fails if it does. -/
structure Outcome where
  stdout : String
  failure : Option Failure
deriving Repr, Inhabited, DecidableEq

/-- The exit status of a run. -/
def Outcome.exitCode (outcome : Outcome) : Nat :=
  match outcome.failure with
  | none => 0
  | some .usage => 2
  | some (.tool _) => 1

/-- The outcome of a run that prints something and succeeds. -/
def succeed (stdout : String) : Outcome := ⟨stdout, none⟩

/-- The outcome of a run that prints nothing and fails. -/
def fail (error : ToolError) : Outcome := ⟨"", some (.tool error)⟩

/-- The text that is printed for a JSON value. -/
def printJson (value : Json.Value) : String := value.pretty ++ "\n"

/-- The line that names the version. -/
def versionLine : String := "quarry 0.1.0\n"

/-- The files that a request names. -/
def Request.files (request : Request) : List String :=
  request.envFile.toList ++
    match request.command with
    | .render _ _ paramsFile _ => paramsFile.toList
    | .list _ | .check _ | .ast _ => []

/-- The variables of a run: those of the process, and those of the file that the
request names over them. -/
def Request.environment (request : Request) (files : FileTree) (process : Environment) :
    Except EnvironmentError Environment :=
  match request.envFile with
  | none => .ok process
  | some path =>
      match process.load files path with
      | (.ok (), e) => .ok e
      | (.error error, _) => .error error

/-- The settings of a run: a directory named by the request wins over the variables. -/
def Request.settings (request : Request) (e : Environment) : Settings :=
  (Settings.mk request.maps).orElse e.settings

/-- The outcome of printing what a document shows. -/
def showDocument (store : Store) (files : FileTree) (file : String)
    (print : Document → String) : Outcome :=
  match (store.document files file).1 with
  | .error e => fail (.query e)
  | .ok document => succeed (print document)

/-- The outcome of a command. -/
def Command.run (store : Store) (files : FileTree) : Command → Outcome
  | .render query pairs paramsFile json =>
      match collectParameters files paramsFile pairs with
      | .error e => fail e
      | .ok parameters =>
          match (store.renderStatement files query parameters.lookup).1 with
          | .error e => fail (.query e)
          | .ok rendered =>
              succeed (if json then printJson rendered.toJson else rendered.sql ++ "\n")
  | .list file => showDocument store files file statementTable
  | .check json =>
      match (checkFiles store files).1 with
      | .error e => fail (.query e)
      | .ok reports =>
          let stdout :=
            if json then printJson (.array (reports.map FileReport.toJson))
            else checkTable reports
          let failed := reports.countP (! ·.isOk)
          ⟨stdout, if failed = 0 then none else some (.tool (.checkFailed failed))⟩
  | .ast file => showDocument store files file fun document => printJson document.toJson

/-- The outcome of a request. -/
def Request.run (request : Request) (files : FileTree) (process : Environment) : Outcome :=
  match request.environment files process with
  | .error e => fail (.environment e)
  | .ok e => request.command.run (Store.ofSettings (request.settings e)) files

/-- The outcome of a run with arguments, in a tree of files and with the
variables of the process. -/
def run (files : FileTree) (process : Environment) (arguments : List String) : Outcome :=
  match Request.parse arguments with
  | .ok request => request.run files process
  | .error .version => succeed versionLine
  | .error .help => succeed ""
  | .error .usage => ⟨"", some .usage⟩

end SqlMapper.CommandLine
