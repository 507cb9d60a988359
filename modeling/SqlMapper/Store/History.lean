/-
Module: SqlMapper.Store.History
Purpose: What a store answers while it is used and the files around it change.
Main exports: World, Step, Answer, Step.run, runAll
-/
import SqlMapper.Store.Basic

namespace SqlMapper.Store

open SqlMapper.Files SqlMapper.Parameter SqlMapper.Query

/-- Files and a store that reads them. -/
structure World where
  files : FileTree
  store : Store
deriving Inhabited

/-- Something that is done to a store or to the files. -/
inductive Step where
  | replace (settings : Settings)
  | configure (path : String)
  | root
  | write (path : String) (entry : Entry)
  | remove (path : String)
  | load (base : String)
  | isCached (base : String)
  | cached
  | available
  | render (query : String) (bag : Bag)
  | renderStatement (query : String) (bag : Bag)
  | statementIds (base : String)
  | document (base : String)
deriving Inhabited

/-- What a step answers. -/
inductive Answer where
  | done
  | path (root : Option String)
  | flag (value : Bool)
  | names (values : List String)
  | text (characters : String)
  | sql (characters : String)
  | rendered (query : RenderedQuery)
  | document (value : Document)
deriving Inhabited

/-- The answer made of a result of the store, and the world with the store afterwards. -/
def World.answer {α : Type} (world : World) (make : α → Answer)
    (result : Except QueryError α × Store) : Except QueryError Answer × World :=
  (result.1.map make, ⟨world.files, result.2⟩)

/-- One step: its answer and the world afterwards. -/
def Step.run (world : World) : Step → Except QueryError Answer × World
  | .replace settings => (.ok .done, ⟨world.files, ofSettings settings⟩)
  | .configure path => (.ok .done, ⟨world.files, world.store.configure path⟩)
  | .root => (.ok (.path world.store.root), world)
  | .write path entry => (.ok .done, ⟨world.files.write path entry, world.store⟩)
  | .remove path => (.ok .done, ⟨world.files.remove path, world.store⟩)
  | .load base => world.answer .text (world.store.load world.files base)
  | .isCached base => (.ok (.flag (world.store.isCached base)), world)
  | .cached => (.ok (.names world.store.cached), world)
  | .available => ((world.store.available world.files).map .names, world)
  | .render query bag => world.answer .sql (world.store.render world.files query bag)
  | .renderStatement query bag =>
      world.answer .rendered (world.store.renderStatement world.files query bag)
  | .statementIds base => world.answer .names (world.store.statementIds world.files base)
  | .document base => world.answer .document (world.store.document world.files base)

/-- Steps one after the other: the answers in order, and the world at the end. -/
def runAll (world : World) : List Step → List (Except QueryError Answer) × World
  | [] => ([], world)
  | step :: rest =>
      let (answer, world) := step.run world
      let (answers, world) := runAll world rest
      (answer :: answers, world)

end SqlMapper.Store
