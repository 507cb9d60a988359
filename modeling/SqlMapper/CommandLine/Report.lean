/-
Module: SqlMapper.CommandLine.Report
Purpose: Checks of all mapper files, and the tables that are printed.
Main exports: FileReport, FileReport.isOk, checkFiles, checkTable, statementTable
-/
import SqlMapper.CommandLine.Error
import SqlMapper.Document.Export
import SqlMapper.Store.Basic

namespace SqlMapper.CommandLine

open SqlMapper.Files SqlMapper.Query

/-- What a check says about one mapper file: how many statements it has and
everything in it that cannot be rendered, or why it has no document. -/
structure FileReport where
  file : String
  statements : Nat
  error : Option String
  unsupported : List UnsupportedTag
  invalid : List InvalidDirective
deriving Repr, Inhabited, DecidableEq

namespace FileReport

/-- The report on a document. -/
def ofDocument (file : String) (document : Document) : FileReport :=
  ⟨file, document.size, none, document.unsupportedTags, document.invalidDirectives⟩

/-- The report on a file without a document. -/
def ofError (file : String) (error : QueryError) : FileReport :=
  ⟨file, 0, some error.message, [], []⟩

/-- Whether nothing is wrong with the file. -/
def isOk (report : FileReport) : Bool :=
  report.error.isNone && report.unsupported.isEmpty && report.invalid.isEmpty

/-- A report as a JSON value; what is not there is left out. -/
def toJson (report : FileReport) : Json.Value :=
  .object
    ([("file", .string report.file), ("statements", .integer report.statements)]
      ++ (match report.error with
        | some message => [("error", .string message)]
        | none => [])
      ++ (if report.unsupported.isEmpty then []
        else [("unsupported", .array (report.unsupported.map UnsupportedTag.toJson))])
      ++ (if report.invalid.isEmpty then []
        else [("invalid", .array (report.invalid.map InvalidDirective.toJson))]))

end FileReport

/-- The report on one file of a store. -/
def checkFile (store : Store) (files : FileTree) (file : String) : FileReport × Store :=
  match store.document files file with
  | (.ok document, store) => (.ofDocument file document, store)
  | (.error error, store) => (.ofError file error, store)

/-- The reports on files of a store, one for each. -/
def checkEach (store : Store) (files : FileTree) : List String → List FileReport × Store
  | [] => ([], store)
  | file :: rest =>
      let (report, store) := checkFile store files file
      let (reports, store) := checkEach store files rest
      (report :: reports, store)

/-- The reports on all files that a store can load. -/
def checkFiles (store : Store) (files : FileTree) :
    Except QueryError (List FileReport) × Store :=
  match store.available files with
  | .error e => (.error e, store)
  | .ok names =>
      let (reports, store) := checkEach store files names
      (.ok reports, store)

/-! ### Tables -/

/-- The width of the first column of a table. -/
def columnWidth : Nat := 24

/-- A text filled up with blanks to the width of the first column. -/
def firstColumn (text : String) : String :=
  text ++ String.ofList (List.replicate (columnWidth - text.length) ' ')

/-- Lines of text, each with its end. -/
def unlines (rows : List String) : String := String.join (rows.map (· ++ "\n"))

/-- The rows for one report: a file with faults has a row for each of them. -/
def FileReport.rows (report : FileReport) : List String :=
  let file := firstColumn report.file
  let count := report.statements
  match report.error with
  | some message => [s!"{file} FAILED  {message}"]
  | none =>
      if report.isOk then [s!"{file} ok      {count} statement(s)"]
      else
        let margin := firstColumn ""
        s!"{file} FAILED"
          :: (report.unsupported.map fun ⟨statement, tag⟩ =>
              s!"{margin}   unsupported <{tag}> in '{statement}'")
          ++ report.invalid.map fun ⟨statement, _, error⟩ =>
              let message := error.message
              s!"{margin}   {message} in '{statement}'"

/-- The table of reports. -/
def checkTable (reports : List FileReport) : String := unlines (reports.flatMap FileReport.rows)

/-- The table of the statements of a document. -/
def statementTable (document : Document) : String :=
  let head := firstColumn "Id"
  unlines (s!"{head} Kind" :: "-----------------------------"
    :: document.statements.map fun s =>
        let id := firstColumn s.id
        let kind := s.kind
        s!"{id} {kind}")

end SqlMapper.CommandLine
