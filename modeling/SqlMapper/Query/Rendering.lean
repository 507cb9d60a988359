/-
Module: SqlMapper.Query.Rendering
Purpose: The SQL of a statement for a parameter bag.
Main exports: renderNode, renderNodes, renderBody, renderStatement, Session, Session.render
-/
import SqlMapper.Condition.Evaluation
import SqlMapper.Document.Basic
import SqlMapper.Query.Clause
import SqlMapper.Query.Error

namespace SqlMapper.Query

open SqlMapper.Condition SqlMapper.Document SqlMapper.Parameter SqlMapper.Text

/-!
A body is rendered from left to right and the first error ends the rendering, so
only what is reached can fail. Conditions select what is reached; they never put
a parameter's value into the SQL.

An inclusion stands for the flattened SQL of the statement it names. While a
statement is rendered its id is on the chain of ids being rendered, outermost
first, and including an id of the chain is a cycle. Since the chain grows with
every inclusion by an id of the document that was not on it, rendering ends.
-/

/-- The text of a block of conditions: its clause, set off on both sides so that
it never touches the words around it. -/
def blockText (content : List Char) : List Char :=
  match clause? content with
  | some clause => ' ' :: (clause ++ [' '])
  | none => []

mutual

/-- The text of a node, with what a name includes given as a function. -/
def renderNode (bag : Bag) (included : String → Except QueryError (List Char)) :
    Node → Except QueryError (List Char)
  | .text characters => .ok characters.toList
  | .ifTest test children =>
      match Condition.test test bag with
      | .error e => .error (.condition e)
      | .ok true => renderNodes bag included children
      | .ok false => .ok []
  | .choose whens otherwise =>
      match renderBranches bag included whens with
      | .error e => .error e
      | .ok (some text) => .ok text
      | .ok none => renderNodes bag included otherwise
  | .isNotNull property children =>
      match bag property with
      | none => .ok []
      | some value => if value.isEmpty then .ok [] else renderNodes bag included children
  | .inclusion refid => included refid
  | .whereBlock children => (renderNodes bag included children).map blockText
  | .unsupported tag => .error (.unsupportedTag tag)
  | .invalid _ error => .error (.markup error)

/-- The text of nodes, one after the other. -/
def renderNodes (bag : Bag) (included : String → Except QueryError (List Char)) :
    List Node → Except QueryError (List Char)
  | [] => .ok []
  | node :: rest =>
      match renderNode bag included node with
      | .error e => .error e
      | .ok text => (renderNodes bag included rest).map (text ++ ·)

/-- The text of the first branch whose test holds, if there is one. -/
def renderBranches (bag : Bag) (included : String → Except QueryError (List Char)) :
    List (Branch Node) → Except QueryError (Option (List Char))
  | [] => .ok none
  | ⟨test, children⟩ :: rest =>
      match Condition.test test bag with
      | .error e => .error (.condition e)
      | .ok true => (renderNodes bag included children).map some
      | .ok false => renderBranches bag included rest

end

/-- The ids of a document that are not on a chain. -/
def idsOffChain (d : SqlMapper.Document) (chain : List String) : List String :=
  d.ids.filter (· ∉ chain)

/-- What `statement?` finds has an id of the document. -/
theorem mem_ids_of_statement? {d : SqlMapper.Document} {id : String} {s : Statement}
    (h : d.statement? id = some s) : id ∈ d.ids := by
  have hid : s.id = id := by simpa using List.find?_some h
  exact hid ▸ List.mem_map_of_mem (List.mem_of_find?_eq_some h)

/-- An id of the document that joins the chain leaves fewer ids off it. -/
theorem length_idsOffChain_lt {d : SqlMapper.Document} {chain : List String} {id : String}
    (hid : id ∈ d.ids) (hoff : id ∉ chain) :
    (idsOffChain d (chain ++ [id])).length < (idsOffChain d chain).length := by
  have hsplit : idsOffChain d (chain ++ [id]) = (idsOffChain d chain).filter (· ≠ id) := by
    simp only [idsOffChain, List.filter_filter]
    congr 1
    funext other
    simp [not_or, and_comm]
  have hmem : id ∈ idsOffChain d chain := by simp [idsOffChain, hid, hoff]
  rw [hsplit]
  exact List.length_filter_lt_length_iff_exists.mpr ⟨id, hmem, by simp⟩

/-- The flattened text of a body, where the statements of a chain are being
rendered; the last id of the chain is the one of the body's statement. -/
def renderBody (d : SqlMapper.Document) (file : String) (bag : Bag) (chain : List String)
    (body : List Node) : Except QueryError (List Char) :=
  let included := fun refid =>
    if _hoff : refid ∈ chain then .error (.inclusionCycle (chain ++ [refid]))
    else match _hfound : d.statement? refid with
      | none => .error (.notDefined (file ++ "." ++ refid))
      | some s => renderBody d file bag (chain ++ [refid]) s.body
  (renderNodes bag included body).map flattenChars
termination_by (idsOffChain d chain).length
decreasing_by exact length_idsOffChain_lt (mem_ids_of_statement? _hfound) _hoff

/-- The SQL of a statement; `file` is the base name that errors are reported with. -/
def renderStatement (d : SqlMapper.Document) (file : String) (bag : Bag) (s : Statement) :
    Except QueryError String :=
  (renderBody d file bag [s.id] s.body).map String.ofList

/-! ### Sessions

A session renders statements of one document with one bag, one after the other.
It keeps the chain of ids that are being rendered, which a statement joins
before its body is rendered and leaves afterwards, whatever came of it.
-/

/-- A document and a bag, and the ids that are being rendered. -/
structure Session where
  document : SqlMapper.Document
  file : String
  bag : Bag
  chain : List String
deriving Inhabited

namespace Session

/-- The session of a document and a bag in which nothing is being rendered. -/
def start (document : SqlMapper.Document) (file : String) (bag : Bag) : Session :=
  ⟨document, file, bag, []⟩

/-- The session while a statement is rendered. -/
def enter (session : Session) (id : String) : Session :=
  ⟨session.document, session.file, session.bag, session.chain ++ [id]⟩

/-- The session after the statement that was entered last. -/
def leave (session : Session) : Session :=
  ⟨session.document, session.file, session.bag, session.chain.dropLast⟩

/-- Render a statement. -/
def render (session : Session) (s : Statement) : Except QueryError String × Session :=
  let inside := session.enter s.id
  let sql := renderBody inside.document inside.file inside.bag inside.chain s.body
  (sql.map String.ofList, inside.leave)

/-- Render statements one after the other. -/
def renderAll (session : Session) : List Statement → List (Except QueryError String) × Session
  | [] => ([], session)
  | s :: rest =>
      let (sql, session) := session.render s
      let (others, session) := session.renderAll rest
      (sql :: others, session)

end Session

end SqlMapper.Query
