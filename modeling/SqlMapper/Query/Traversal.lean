/-
Module: SqlMapper.Query.Traversal
Purpose: Rendering as one traversal of a document that keeps the chain of ids as it goes.
Main exports: OnChain, traverseNode, traverseNodes, traverseChoice, traverseStatement,
  Session.traverse, Session.traverseAll
-/
import SqlMapper.Query.Rendering

namespace SqlMapper.Query

open SqlMapper.Condition SqlMapper.Document SqlMapper.Parameter SqlMapper.Text

/-!
A session has one chain for everything that it renders. A statement puts its id
on the chain before its body is rendered, wherever it is included, and the last
id is taken off again when the body is done. An error does not stop this: it is
passed on as a result, and whatever comes after it finds the chain as the error
left it.

Nothing here depends on how long the chain is, and a document may include itself.
So the traversal is told how many statements may stand in each other, and has no
result if there are more.
-/

/-- What is done on a chain of ids, if it comes to an end. -/
abbrev OnChain := StateT (List String) Option

section

variable (d : SqlMapper.Document) (file : String) (bag : Bag)
  (enter : Statement → OnChain (Except QueryError (List Char)))

mutual

/-- The text of a node, with what is done for an included statement given. -/
def traverseNode : Node → OnChain (Except QueryError (List Char))
  | .text characters => pure (.ok characters.toList)
  | .ifTest test children =>
      match Condition.test test bag with
      | .error e => pure (.error (.condition e))
      | .ok true => traverseNodes children
      | .ok false => pure (.ok [])
  | .choose whens otherwise => traverseChoice (traverseNodes otherwise) whens
  | .isNotNull property children =>
      match bag property with
      | none => pure (.ok [])
      | some value => if value.isEmpty then pure (.ok []) else traverseNodes children
  | .inclusion refid => do
      let chain ← get
      if refid ∈ chain then pure (.error (.inclusionCycle (chain ++ [refid])))
      else match d.statement? refid with
        | none => pure (.error (.notDefined (file ++ "." ++ refid)))
        | some s => enter s
  | .whereBlock children => do
      let content ← traverseNodes children
      pure (content.map blockText)
  | .unsupported tag => pure (.error (.unsupportedTag tag))
  | .invalid _ error => pure (.error (.markup error))

/-- The text of nodes, up to the first one that fails. -/
def traverseNodes : List Node → OnChain (Except QueryError (List Char))
  | [] => pure (.ok [])
  | node :: rest => do
      match ← traverseNode node with
      | .error e => pure (.error e)
      | .ok text => do
          let later ← traverseNodes rest
          pure (later.map (text ++ ·))

/-- The text of the first branch whose test holds, or of the last resort. -/
def traverseChoice (last : OnChain (Except QueryError (List Char))) :
    List (Branch Node) → OnChain (Except QueryError (List Char))
  | [] => last
  | ⟨test, children⟩ :: rest =>
      match Condition.test test bag with
      | .error e => pure (.error (.condition e))
      | .ok true => traverseNodes children
      | .ok false => traverseChoice last rest

end

end

/-- The flattened text of a statement, whose id is on the chain meanwhile, unless
statements would stand deeper in each other than a depth. -/
def traverseStatement (d : SqlMapper.Document) (file : String) (bag : Bag) :
    Nat → Statement → OnChain (Except QueryError (List Char))
  | 0, _ => failure
  | depth + 1, s => do
      modify (· ++ [s.id])
      let rendered ← traverseNodes d file bag (traverseStatement d file bag depth) s.body
      modify List.dropLast
      pure (rendered.map flattenChars)

namespace Session

/-- Render a statement on the chain of a session. The depth is enough for every
statement of the document to stand in another one, below the one that is rendered. -/
def traverse (session : Session) (s : Statement) :
    Option (Except QueryError String × Session) :=
  let depth := session.document.size + 1
  ((traverseStatement session.document session.file session.bag depth s).run session.chain).map
    fun (text, chain) =>
      (text.map String.ofList, ⟨session.document, session.file, session.bag, chain⟩)

/-- Render statements one after the other on the chain of one session. -/
def traverseAll (session : Session) :
    List Statement → Option (List (Except QueryError String) × Session)
  | [] => some ([], session)
  | s :: rest => do
      let (sql, session) ← session.traverse s
      let (others, session) ← session.traverseAll rest
      pure (sql :: others, session)

end Session

end SqlMapper.Query
