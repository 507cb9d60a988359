/-
Module: SqlMapper.Store.Basic
Purpose: The store of mapper files: loading, listing, and rendering queries from it.
Main exports: Store, Store.load, Store.available, Store.document, Store.renderStatement
-/
import SqlMapper.Dictionary
import SqlMapper.Document.Build
import SqlMapper.Files.Tree
import SqlMapper.Json.Value
import SqlMapper.Query.Id
import SqlMapper.Query.Rendering
import SqlMapper.Store.Settings

namespace SqlMapper

open SqlMapper.Files SqlMapper.Parameter SqlMapper.Query

/-!
A store knows the directory of the mapper files and keeps the text of every file
it has read. A file is read once; what happens to it later, or to the directory,
makes no difference. Only names of letters and digits are looked up, so that
every path the store looks at is a file of its directory.

Each operation that may read a file gives its result together with the store
afterwards; an operation that fails before it has read a file leaves the store
as it was.
-/

/-- The directory of the mapper files, and the texts read so far by file name. -/
structure Store where
  root : Option String
  cache : Dictionary String
deriving Repr, Inhabited, DecidableEq

/-- The SQL of a query, with its id and the name of the element that declares it. -/
structure RenderedQuery where
  id : QueryId
  kind : String
  sql : String
deriving Repr, Inhabited, DecidableEq

namespace Store

/-- The store without a directory and without texts. -/
def empty : Store := ⟨none, ∅⟩

/-- The store with another directory; what was read stays. -/
def configure (store : Store) (root : String) : Store := ⟨some root, store.cache⟩

/-- A new store with the directory that the settings name. -/
def ofSettings (settings : Settings) : Store := ⟨settings.mapPath, ∅⟩

/-- Read a file of the directory. -/
def readFile (root : Option String) (files : FileTree) (name : String) :
    Except QueryError String :=
  match root with
  | none => .error .rootNotSet
  | some root =>
      let path := joinPath root name
      if files.isFile path then
        match files.readText path with
        | .ok text => .ok text
        | .error cause => .error (.unreadable path cause)
      else .error (.fileNotFound path)

/-- The text of the file with a base name, read when it is first asked for. -/
def load (store : Store) (files : FileTree) (base : String) : Except QueryError String × Store :=
  if isName base.toList then
    match store.cache.find? (fileName base) with
    | some text => (.ok text, store)
    | none =>
        match readFile store.root files (fileName base) with
        | .ok text => (.ok text, ⟨store.root, store.cache.insert (fileName base) text⟩)
        | .error e => (.error e, store)
  else (.error (.invalidFileName base), store)

/-- Whether the file with a base name has been read. -/
def isCached (store : Store) (base : String) : Bool := store.cache.contains (fileName base)

/-- The names of the files that have been read, in ascending order. -/
def cached (store : Store) : List String := store.cache.names

/-- The base name in a file name, if the file can be asked for by it. -/
def baseName? (name : String) : Option String :=
  let cs := name.toList
  let ending := fileEnding.toList
  let base := cs.take (cs.length - ending.length)
  if ending.isSuffixOf cs && isName base then some (String.ofList base) else none

/-- Texts in ascending order, each once. -/
def sortNames (names : List String) : List String :=
  (Dictionary.ofList (names.map fun name => (name, ()))).names

/-- The base names of the files that can be loaded, in ascending order. -/
def available (store : Store) (files : FileTree) : Except QueryError (List String) :=
  match store.root with
  | none => .error .rootNotSet
  | some root =>
      match files.list root with
      | .ok names =>
          let present := names.filter fun name => files.isFile (joinPath root name)
          .ok (sortNames (present.filterMap baseName?))
      | .error cause => .error (.unreadable root cause)

/-- The document of a text that was loaded or not. -/
def parseLoaded : Except QueryError String → Except QueryError Document
  | .error e => .error e
  | .ok text =>
      match Document.parse text with
      | .ok document => .ok document
      | .error e => .error (.markup e)

/-- The document of the file with a base name. -/
def document (store : Store) (files : FileTree) (base : String) :
    Except QueryError Document × Store :=
  let (text, store) := store.load files base
  (parseLoaded text, store)

/-- The ids of the statements in the file with a base name. -/
def statementIds (store : Store) (files : FileTree) (base : String) :
    Except QueryError (List String) × Store :=
  let (document, store) := store.document files base
  (document.map Document.ids, store)

/-- The SQL of a statement of a document. -/
def renderIn (id : QueryId) (bag : Bag) (document : Document) : Except QueryError RenderedQuery :=
  match document.statement? id.statement with
  | none => .error (.notDefined id.text)
  | some s => (Query.renderStatement document id.file bag s).map fun sql => ⟨id, s.kind, sql⟩

/-- Render the query with an id, and say which element declares it. -/
def renderStatement (store : Store) (files : FileTree) (query : String) (bag : Bag) :
    Except QueryError RenderedQuery × Store :=
  match QueryId.parse query with
  | .error e => (.error e, store)
  | .ok id =>
      let (document, store) := store.document files id.file
      (document >>= renderIn id bag, store)

/-- Render the query with an id. -/
def render (store : Store) (files : FileTree) (query : String) (bag : Bag) :
    Except QueryError String × Store :=
  let (rendered, store) := store.renderStatement files query bag
  (rendered.map RenderedQuery.sql, store)

end Store

/-- A rendered query as a JSON value. -/
def RenderedQuery.toJson (rendered : RenderedQuery) : Json.Value :=
  .object
    [("id", .object [("file", .string rendered.id.file), ("local", .string rendered.id.statement)]),
      ("kind", .string rendered.kind), ("sql", .string rendered.sql)]

end SqlMapper
