/-
Module: SqlMapper.Proofs.Termination
Purpose: Rendering comes to an end, and no more statements are inside each other than there are ids.
Main exports: Point.remaining, Leads.remaining_lt, renderWithin, exists_depth_of_point,
  rendering_terminates
-/
import Mathlib.Data.Finset.Card
import Mathlib.Data.List.Dedup
import Mathlib.Data.Prod.Lex
import SqlMapper.Proofs.Course

namespace SqlMapper.Query

open SqlMapper.Document SqlMapper.Parameter SqlMapper.Text
open Relation

/-!
What is left to do at a point is measured by the ids that are not on the chain
and, for the same ids, by the nodes that are left with all below them. A step
into a body or past a node leaves fewer nodes; an inclusion may come to a larger
body, but it takes an id off.

The renderer of the library is defined along this measure. To say that rendering
ends is therefore to say it of a renderer without it: `renderWithin` follows the
rules of rendering alone and is only told how deep its calls may stand in each
other, and at some depth it needs no deeper one.
-/

section

variable {d : SqlMapper.Document} {file : String} {bag : Bag}

/-! ### What is left to do -/

/-- The number of ids that are not on the chain of a point, and the number of
nodes that are left there. -/
def Point.remaining (d : SqlMapper.Document) (p : Point) : Nat × Nat :=
  ((idsOffChain d p.chain).length, (walkAll p.nodes).length)

/-- Whatever a rendering goes on with, less is left to do there. -/
theorem Leads.remaining_lt {p q : Point} (h : Leads d file bag p q) :
    Prod.Lex (· < ·) (· < ·) (q.remaining d) (p.remaining d) := by
  cases h with
  | @next chain node rest text rendered =>
    have here := List.length_pos_iff.mpr (walk_ne_nil node)
    apply Prod.Lex.right
    simp only [walkAll, List.length_append]
    omega
  | @enter chain node rest nodes entered =>
    have below := length_walkAll_action_lt bag node
    rw [entered, Action.nodes] at below
    apply Prod.Lex.right
    simp only [walkAll, List.length_append]
    omega
  | @block chain node rest nodes entered =>
    have below := length_walkAll_action_lt bag node
    rw [entered, Action.nodes] at below
    apply Prod.Lex.right
    simp only [walkAll, List.length_append]
    omega
  | inclusion off found =>
    apply Prod.Lex.left
    exact length_idsOffChain_lt (mem_ids_of_statement? found) off

/-! ### The chain -/

/-- A trail that starts in the document meets ids of the document, each once. -/
theorem Trail.nodup_subset {s last : Statement} {chain : List String}
    (member : s ∈ d.statements) (h : Trail d bag s chain last) :
    chain.Nodup ∧ chain ⊆ d.ids := by
  induction h with
  | start =>
    refine ⟨List.nodup_singleton _, ?_⟩
    intro id here
    obtain rfl := List.mem_singleton.mp here
    exact List.mem_map_of_mem member
  | @step chain last next refid trail selected off found ih =>
    obtain ⟨distinct, known⟩ := ih
    constructor
    · exact List.concat_eq_append ▸ distinct.concat off
    · intro id here
      rcases List.mem_append.mp here with earlier | newest
      · exact known earlier
      · obtain rfl := List.mem_singleton.mp newest
        exact mem_ids_of_statement? found

/-- Ids of the document that are met once each are no more than the document has. -/
theorem length_le_card_ids {chain : List String} (distinct : chain.Nodup)
    (known : chain ⊆ d.ids) : chain.length ≤ d.ids.toFinset.card := by
  rw [← List.toFinset_card_of_nodup distinct]
  apply Finset.card_le_card
  intro id here
  exact List.mem_toFinset.mpr (known (List.mem_toFinset.mp here))

/-! ### Rendering within a depth -/

/-- The text of an action on the statements of a chain, with what is rendered at
another point given as a function that may have no answer. -/
def performWithin (d : SqlMapper.Document) (file : String)
    (renderAt : Point → Option (Except QueryError (List Char))) (chain : List String) :
    Action → Option (Except QueryError (List Char))
  | .write text => some (.ok text)
  | .enter nodes => renderAt ⟨chain, nodes⟩
  | .block nodes => (renderAt ⟨chain, nodes⟩).map (·.map blockText)
  | .inclusion refid =>
      if refid ∈ chain then some (.error (.inclusionCycle (chain ++ [refid])))
      else match d.statement? refid with
        | none => some (.error (.notDefined (file ++ "." ++ refid)))
        | some s => (renderAt ⟨chain ++ [refid], s.body⟩).map (·.map flattenChars)
  | .refuse error => some (.error error)

/-- The text of the nodes at a point, unless calls would stand deeper in each
other than a depth. -/
def renderWithin (d : SqlMapper.Document) (file : String) (bag : Bag) :
    Nat → Point → Option (Except QueryError (List Char))
  | 0, _ => none
  | _ + 1, ⟨_, []⟩ => some (.ok [])
  | depth + 1, ⟨chain, node :: rest⟩ =>
      match performWithin d file (renderWithin d file bag depth) chain (action bag node) with
      | none => none
      | some (.error e) => some (.error e)
      | some (.ok text) => (renderWithin d file bag depth ⟨chain, rest⟩).map (·.map (text ++ ·))

/-- The SQL of a statement, unless calls would stand deeper in each other than a depth. -/
def renderStatementWithin (d : SqlMapper.Document) (file : String) (bag : Bag) (depth : Nat)
    (s : Statement) : Option (Except QueryError String) :=
  (renderWithin d file bag depth (.start s)).map
    fun result => (result.map flattenChars).map String.ofList

/-- From some depth on, a point is rendered as the renderer of the library renders it. -/
def EndsAt (d : SqlMapper.Document) (file : String) (bag : Bag) (depth : Nat) (p : Point) : Prop :=
  ∀ deeper, depth ≤ deeper → renderWithin d file bag deeper p = some (p.render d file bag)

/-- If the rendering ends wherever the first node of a point leads, the node is
rendered within some depth. -/
theorem exists_depth_of_node {chain : List String} {node : Node} {rest : List Node}
    (ends : ∀ q, Leads d file bag ⟨chain, node :: rest⟩ q → ∃ depth, EndsAt d file bag depth q) :
    ∃ depth, ∀ deeper, depth ≤ deeper →
      performWithin d file (renderWithin d file bag deeper) chain (action bag node)
        = some (renderNode bag (inclusionText d file bag chain) node) := by
  rw [renderNode_eq_perform]
  cases haction : action bag node with
  | write text => exact ⟨0, fun _ _ => rfl⟩
  | enter nodes =>
    obtain ⟨depth, settled⟩ := ends _ (.enter haction)
    refine ⟨depth, ?_⟩
    intro deeper enough
    exact settled deeper enough
  | block nodes =>
    obtain ⟨depth, settled⟩ := ends _ (.block haction)
    refine ⟨depth, ?_⟩
    intro deeper enough
    rw [performWithin, settled deeper enough]
    rfl
  | inclusion refid =>
    obtain rfl := eq_inclusion_of_action haction
    by_cases on : refid ∈ chain
    · refine ⟨0, ?_⟩
      intro deeper _
      rw [performWithin, if_pos on, Action.perform, inclusionText_of_mem on]
    · cases found : d.statement? refid with
      | none =>
        refine ⟨0, ?_⟩
        intro deeper _
        rw [performWithin, if_neg on, found, Action.perform, inclusionText_of_undefined on found]
      | some s =>
        obtain ⟨depth, settled⟩ := ends _ (.inclusion on found)
        refine ⟨depth, ?_⟩
        intro deeper enough
        rw [performWithin, if_neg on, found, Action.perform, inclusionText_of_found on found,
          renderBody_eq]
        simp only [settled deeper enough, Option.map_some]
        rfl
  | refuse error => exact ⟨0, fun _ _ => rfl⟩

/-- Every point is rendered within some depth. -/
theorem exists_depth_of_point (p : Point) : ∃ depth, EndsAt d file bag depth p := by
  -- The induction is on what is left to do, which every call and every step makes less.
  induction p using (InvImage.wf (Point.remaining d)
    (WellFounded.prod_lex Nat.lt_wfRel.wf Nat.lt_wfRel.wf)).induction with
  | _ p ih =>
    have ends : ∀ q, Leads d file bag p q → ∃ depth, EndsAt d file bag depth q := by
      intro q leads
      exact ih q leads.remaining_lt
    obtain ⟨chain, nodes⟩ := p
    cases nodes with
    | nil =>
      refine ⟨1, ?_⟩
      rintro (_ | depth) enough
      · omega
      · rw [renderWithin, Point.render, renderNodes]
    | cons node rest =>
      obtain ⟨first, hfirst⟩ := exists_depth_of_node ends
      cases hnode : renderNode bag (inclusionText d file bag chain) node with
      | error e =>
        refine ⟨first + 1, ?_⟩
        rintro (_ | depth) enough
        · omega
        · have := hfirst depth (by omega)
          rw [renderWithin, this, hnode, Point.render, renderNodes, hnode]
      | ok text =>
        obtain ⟨later, hlater⟩ := ends _ (.next hnode)
        refine ⟨max first later + 1, ?_⟩
        rintro (_ | depth) enough
        · omega
        · have here := hfirst depth (by omega)
          have behind := hlater depth (by omega)
          rw [renderWithin, here, hnode, Point.render, renderNodes, hnode]
          simp only [behind, Option.map_some, Point.render]

end

/-- Rendering a statement ends with a result, however statements include each
other. On its way the chain holds ids of the document, each once, so that there
are never more than the document has; and wherever the rendering goes on, there
are fewer ids off the chain, or as many and fewer nodes left. -/
theorem rendering_terminates {d : SqlMapper.Document} {s : Statement} (member : s ∈ d.statements)
    (file : String) (bag : Bag) :
    (∃ depth, ∀ deeper, depth ≤ deeper →
        renderStatementWithin d file bag deeper s = some (renderStatement d file bag s))
      ∧ ∀ p, Reaches d file bag (.start s) p →
        p.chain.Nodup ∧ p.chain ⊆ d.ids ∧ p.chain.length ≤ d.ids.toFinset.card
          ∧ ∀ q, Leads d file bag p q →
            Prod.Lex (· < ·) (· < ·) (q.remaining d) (p.remaining d) := by
  constructor
  · have ended : ∃ depth, EndsAt d file bag depth (.start s) := exists_depth_of_point (.start s)
    obtain ⟨depth, ends⟩ := ended
    refine ⟨depth, ?_⟩
    intro deeper enough
    rw [renderStatementWithin, ends deeper enough, renderStatement, renderBody_eq]
    rfl
  · intro p reached
    obtain ⟨last, trail, _⟩ := exists_trail_of_reaches reached
    obtain ⟨distinct, known⟩ := trail.nodup_subset member
    refine ⟨distinct, known, length_le_card_ids distinct known, ?_⟩
    intro q leads
    exact leads.remaining_lt

private def pageOfRows : Statement :=
  ⟨"select", "page", [.text "SELECT * FROM t ", .whereBlock [.inclusion "filter"]]⟩

private def rowFilter : Statement :=
  ⟨"sql", "filter", [.text "a = 1", .isNotNull "nested" [.text "AND b IN ", .inclusion "page"]]⟩

/-- Two statements that include each other, where the bag selects both inclusions. -/
theorem rendering_terminates_mutual :
    let d : SqlMapper.Document := ⟨[pageOfRows, rowFilter]⟩
    let bag : Bag := fun name => if name = "nested" then some "yes" else none
    (∃ depth, renderStatementWithin d "Test" bag depth pageOfRows
        = some (.error (.inclusionCycle ["page", "filter", "page"])))
      ∧ Reaches d "Test" bag (.start pageOfRows) ⟨["page", "filter"], [.inclusion "page"]⟩
      ∧ ["page", "filter"].length ≤ d.ids.toFinset.card := by
  intro d bag
  have reached : Reaches d "Test" bag (.start pageOfRows)
      ⟨["page", "filter"], [.inclusion "page"]⟩ :=
    .head (.next rfl) <| .head (.block rfl) <| .head (.inclusion (by decide) rfl) <|
      .head (.next rfl) <| .head (.enter rfl) <| .single (.next rfl)
  have fails : renderStatement d "Test" bag pageOfRows
      = .error (.inclusionCycle ["page", "filter", "page"]) :=
    renderStatement_eq_error_iff.mpr ⟨_, reached, .cycle (by decide)⟩
  obtain ⟨⟨depth, ends⟩, along⟩ := rendering_terminates (d := d) List.mem_cons_self "Test" bag
  obtain ⟨_, _, bounded, _⟩ := along _ reached
  exact ⟨⟨depth, fails ▸ ends depth (le_refl depth)⟩, reached, bounded⟩

end SqlMapper.Query
