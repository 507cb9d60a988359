/-
Module: SqlMapper.Proofs.SessionReuse
Purpose: A session is after every statement as it was before, whatever came of the statement.
Main exports: Restores, run_traverseNodes, run_traverseStatement, Session.traverse_eq,
  session_reusable
-/
import Mathlib.Data.List.Forall2
import SqlMapper.Proofs.Course
import SqlMapper.Query.Traversal

namespace SqlMapper.Query

open SqlMapper.Condition SqlMapper.Document SqlMapper.Parameter SqlMapper.Text

/-!
A traversal changes the chain only in a statement, which takes off at the end
what it put on at the start. So the chain is after every node what it was
before, if that is known of the statements that the node may include; and they
are traversed on a longer chain, with fewer ids left off it. With the chain the
same at every node, the traversal comes to what the renderer of the library
gives for that chain.
-/

section

variable {d : SqlMapper.Document} {file : String} {bag : Bag} {chain : List String}
  {enter : Statement → OnChain (Except QueryError (List Char))}

/-- What is done for the statements that may be included on a chain renders them
and leaves the chain as it was. -/
def Restores (d : SqlMapper.Document) (file : String) (bag : Bag)
    (enter : Statement → OnChain (Except QueryError (List Char))) (chain : List String) : Prop :=
  ∀ refid s, refid ∉ chain → d.statement? refid = some s →
    (enter s).run chain = some (renderBody d file bag (chain ++ [refid]) s.body, chain)

/-- An inclusion ends with the chain as it was: nothing is entered for an id of
the chain and for one that is not defined. -/
theorem run_traverseNode_inclusion (restores : Restores d file bag enter chain)
    (refid : String) :
    (traverseNode d file bag enter (.inclusion refid)).run chain
      = some (inclusionText d file bag chain refid, chain) := by
  rw [traverseNode]
  by_cases on : refid ∈ chain
  · simp [on, inclusionText_of_mem on]
  · cases found : d.statement? refid with
    | none => simp [on, inclusionText_of_undefined on found]
    | some s => simp [on, inclusionText_of_found on found, restores refid s on found]

mutual

theorem run_traverseNode (restores : Restores d file bag enter chain) :
    ∀ node, (traverseNode d file bag enter node).run chain
      = some (renderNode bag (inclusionText d file bag chain) node, chain)
  | .text characters => by
      rw [traverseNode, renderNode]
      rfl
  | .ifTest test children => by
      have inside := run_traverseNodes restores children
      rw [traverseNode, renderNode]
      cases Condition.test test bag with
      | error e => rfl
      | ok holds =>
        cases holds with
        | true => exact inside
        | false => rfl
  | .choose whens otherwise => by
      rw [traverseNode]
      exact run_traverseChoice restores (run_traverseNodes restores otherwise) whens
  | .isNotNull property children => by
      have inside := run_traverseNodes restores children
      rw [traverseNode, renderNode]
      cases bag property with
      | none => rfl
      | some value =>
        simp only
        split
        · rfl
        · exact inside
  | .inclusion refid => by
      rw [renderNode]
      exact run_traverseNode_inclusion restores refid
  | .whereBlock children => by
      have inside := run_traverseNodes restores children
      rw [traverseNode, renderNode]
      simp [inside]
  | .unsupported tag => by
      rw [traverseNode, renderNode]
      rfl
  | .invalid tag error => by
      rw [traverseNode, renderNode]
      rfl
termination_by structural node => node

/-- Nodes are rendered for the chain on which they stand, and leave it as it was. -/
theorem run_traverseNodes (restores : Restores d file bag enter chain) :
    ∀ nodes, (traverseNodes d file bag enter nodes).run chain
      = some (renderNodes bag (inclusionText d file bag chain) nodes, chain)
  | [] => by
      rw [traverseNodes, renderNodes]
      rfl
  | node :: rest => by
      have first := run_traverseNode restores node
      have later := run_traverseNodes restores rest
      rw [traverseNodes, renderNodes]
      simp only [StateT.run_bind, first, Option.bind_eq_bind, Option.bind_some]
      -- The nodes behind one that fails are not traversed; the chain is the same already.
      cases renderNode bag (inclusionText d file bag chain) node with
      | error e => rfl
      | ok text => simp [later]
termination_by structural nodes => nodes

theorem run_traverseChoice (restores : Restores d file bag enter chain)
    {otherwise : List Node} {last : OnChain (Except QueryError (List Char))}
    (runLast : last.run chain
      = some (renderNodes bag (inclusionText d file bag chain) otherwise, chain)) :
    ∀ whens, (traverseChoice d file bag enter last whens).run chain
      = some (renderNode bag (inclusionText d file bag chain) (.choose whens otherwise), chain)
  | [] => by
      simp only [traverseChoice, renderNode, renderBranches]
      exact runLast
  | ⟨test, children⟩ :: rest => by
      have inside := run_traverseNodes restores children
      have later := run_traverseChoice restores runLast rest
      simp only [traverseChoice, renderNode, renderBranches] at later ⊢
      cases Condition.test test bag with
      | error e => rfl
      | ok holds =>
        cases holds with
        | true =>
          simp only [inside]
          cases renderNodes bag (inclusionText d file bag chain) children <;> rfl
        | false => exact later
termination_by structural whens => whens

end

/-- A statement takes its id off the chain again, also if its body fails. -/
theorem run_traverseStatement_of_restores {depth : Nat} {s : Statement}
    (restores : Restores d file bag (traverseStatement d file bag depth) (chain ++ [s.id])) :
    (traverseStatement d file bag (depth + 1) s).run chain
      = some (renderBody d file bag (chain ++ [s.id]) s.body, chain) := by
  rw [traverseStatement, renderBody_eq]
  simp [run_traverseNodes restores]

/-- With enough depth for the ids that are off the chain, rendering a statement
comes to an end and leaves the chain as it was. -/
theorem run_traverseStatement {depth : Nat} {s : Statement}
    (enough : (idsOffChain d (chain ++ [s.id])).length < depth) :
    (traverseStatement d file bag depth s).run chain
      = some (renderBody d file bag (chain ++ [s.id]) s.body, chain) := by
  induction depth generalizing chain s with
  | zero => exact absurd enough (Nat.not_lt_zero _)
  | succ depth ih =>
    apply run_traverseStatement_of_restores
    intro refid next off found
    obtain rfl := id_of_statement? found
    have fewer := length_idsOffChain_lt (mem_ids_of_statement? found) off
    exact ih (by omega)

end

theorem length_idsOffChain_le (d : SqlMapper.Document) (chain : List String) :
    (idsOffChain d chain).length ≤ d.size := by
  have := List.length_filter_le (· ∉ chain) d.ids
  simpa [idsOffChain, Document.ids, Document.size] using this

namespace Session

/-- On a chain that is kept as it goes, a session renders a statement as it does
with the chain given. -/
theorem traverse_eq (session : Session) (s : Statement) :
    session.traverse s = some (session.render s) := by
  have enough := length_idsOffChain_le session.document (session.chain ++ [s.id])
  rw [traverse, run_traverseStatement (Nat.lt_succ_of_le enough), Option.map_some]
  simp [render, enter, leave]

theorem render_snd (session : Session) (s : Statement) : (session.render s).2 = session := by
  simp [render, enter, leave]

/-- Each of several statements is rendered as it is by the session at the start. -/
theorem renderAll_eq (session : Session) (statements : List Statement) :
    session.renderAll statements = (statements.map fun s => (session.render s).1, session) := by
  induction statements with
  | nil => rfl
  | cons s rest ih =>
    have after : (session.render s).2 = session := session.render_snd s
    simp only [renderAll, after, ih, List.map_cons]

theorem traverseAll_eq (session : Session) (statements : List Statement) :
    session.traverseAll statements = some (session.renderAll statements) := by
  induction statements with
  | nil => rfl
  | cons s rest ih =>
    have after : (session.render s).2 = session := session.render_snd s
    simp [traverseAll, renderAll, traverse_eq, after, ih]

end Session

/-- A session can be used again after any outcome. Of statements rendered one
after the other each gives what it gives in a new session; and rendering a
statement leaves any session, whatever is being rendered in it, as it was. -/
theorem session_reusable (d : SqlMapper.Document) (file : String) (bag : Bag)
    (statements : List Statement) :
    (∃ results,
      (Session.start d file bag).traverseAll statements = some (results, Session.start d file bag)
        ∧ (Session.start d file bag).renderAll statements = (results, Session.start d file bag)
        ∧ List.Forall₂ (fun s result =>
          (Session.start d file bag).traverse s = some (result, Session.start d file bag))
            statements results)
      ∧ ∀ (session : Session) (s : Statement),
        session.traverse s = some ((session.render s).1, session) := by
  have kept : ∀ (session : Session) (s : Statement),
      session.traverse s = some ((session.render s).1, session) := by
    intro session s
    rw [session.traverse_eq, Option.some.injEq, Prod.ext_iff]
    exact ⟨rfl, session.render_snd s⟩
  constructor
  · refine ⟨statements.map fun s => ((Session.start d file bag).render s).1, ?_, ?_, ?_⟩
    · rw [Session.traverseAll_eq, Session.renderAll_eq]
    · exact Session.renderAll_eq _ statements
    · rw [List.forall₂_map_right_iff, List.forall₂_same]
      intro s _
      exact kept _ s
  · exact kept

end SqlMapper.Query
