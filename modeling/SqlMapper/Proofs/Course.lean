/-
Module: SqlMapper.Proofs.Course
Purpose: The points that a rendering passes, what each leads to, and where errors are raised.
Main exports: inclusionText, Point, Leads, Reaches, Raises, render_eq_error_iff, Includes, Trail,
  exists_trail_of_reaches
-/
import Mathlib.Logic.Relation
import SqlMapper.Proofs.Action
import SqlMapper.Proofs.StatementIds

namespace SqlMapper.Query

open SqlMapper.Condition SqlMapper.Document SqlMapper.Parameter SqlMapper.Text
open Relation

/-!
A rendering is at a point when it has some nodes left to render while the
statements of a chain are being rendered. From there it goes on to the nodes
behind the first one, once that one is rendered, or into what the bag makes of
the first one, or into the body of the statement that the first one includes.
This is the whole call graph of the renderer: its error is the error raised at a
point that it reaches, and it fails nowhere else.
-/

section

variable {d : SqlMapper.Document} {file : String} {bag : Bag}

/-- What including an id gives while the statements of a chain are being rendered. -/
def inclusionText (d : SqlMapper.Document) (file : String) (bag : Bag) (chain : List String)
    (refid : String) : Except QueryError (List Char) :=
  if refid ∈ chain then .error (.inclusionCycle (chain ++ [refid]))
  else match d.statement? refid with
    | none => .error (.notDefined (file ++ "." ++ refid))
    | some s => renderBody d file bag (chain ++ [refid]) s.body

theorem inclusionText_of_mem {chain : List String} {refid : String} (h : refid ∈ chain) :
    inclusionText d file bag chain refid = .error (.inclusionCycle (chain ++ [refid])) :=
  if_pos h

theorem inclusionText_of_undefined {chain : List String} {refid : String} (off : refid ∉ chain)
    (undefined : d.statement? refid = none) :
    inclusionText d file bag chain refid = .error (.notDefined (file ++ "." ++ refid)) := by
  simp [inclusionText, off, undefined]

theorem inclusionText_of_found {chain : List String} {refid : String} {s : Statement}
    (off : refid ∉ chain) (found : d.statement? refid = some s) :
    inclusionText d file bag chain refid = renderBody d file bag (chain ++ [refid]) s.body := by
  simp [inclusionText, off, found]

/-- A statement that could be included was not being rendered, and is defined. -/
theorem inclusionText_eq_ok_iff {chain : List String} {refid : String} {text : List Char} :
    inclusionText d file bag chain refid = .ok text
      ↔ refid ∉ chain ∧ ∃ s, d.statement? refid = some s
        ∧ renderBody d file bag (chain ++ [refid]) s.body = .ok text := by
  by_cases on : refid ∈ chain
  · simp [inclusionText_of_mem on, on]
  · cases found : d.statement? refid with
    | none => simp [inclusionText_of_undefined on found]
    | some s => simp [inclusionText_of_found on found, on]

/-- Rendering a body renders its nodes, whose inclusions depend on the chain. -/
theorem renderBody_eq (d : SqlMapper.Document) (file : String) (bag : Bag) (chain : List String)
    (body : List Node) :
    renderBody d file bag chain body
      = (renderNodes bag (inclusionText d file bag chain) body).map flattenChars := by
  rw [renderBody]
  refine congrArg (fun included => (renderNodes bag included body).map flattenChars)
    (funext fun refid => ?_)
  unfold inclusionText
  split
  · rfl
  · split <;> simp_all

/-! ### Points -/

/-- A point of a rendering: the ids of the statements being rendered, outermost
first, and the nodes that are left of what is being rendered. -/
structure Point where
  chain : List String
  nodes : List Node
deriving Repr, Inhabited

/-- The point at which the rendering of a statement starts. -/
def Point.start (s : Statement) : Point := ⟨[s.id], s.body⟩

/-- The text of the nodes that are left at a point. -/
def Point.render (d : SqlMapper.Document) (file : String) (bag : Bag) (p : Point) :
    Except QueryError (List Char) :=
  renderNodes bag (inclusionText d file bag p.chain) p.nodes

/-- What a rendering goes on with at a point. -/
inductive Leads (d : SqlMapper.Document) (file : String) (bag : Bag) : Point → Point → Prop where
  | next {chain : List String} {node : Node} {rest : List Node} {text : List Char}
      (rendered : renderNode bag (inclusionText d file bag chain) node = .ok text) :
      Leads d file bag ⟨chain, node :: rest⟩ ⟨chain, rest⟩
  | enter {chain : List String} {node : Node} {rest nodes : List Node}
      (entered : action bag node = .enter nodes) :
      Leads d file bag ⟨chain, node :: rest⟩ ⟨chain, nodes⟩
  | block {chain : List String} {node : Node} {rest nodes : List Node}
      (entered : action bag node = .block nodes) :
      Leads d file bag ⟨chain, node :: rest⟩ ⟨chain, nodes⟩
  | inclusion {chain : List String} {refid : String} {rest : List Node} {s : Statement}
      (off : refid ∉ chain) (found : d.statement? refid = some s) :
      Leads d file bag ⟨chain, .inclusion refid :: rest⟩ ⟨chain ++ [refid], s.body⟩

/-- A rendering that is at one point comes to another. -/
abbrev Reaches (d : SqlMapper.Document) (file : String) (bag : Bag) : Point → Point → Prop :=
  ReflTransGen (Leads d file bag)

/-- The error that a rendering raises at a point itself. -/
inductive Raises (d : SqlMapper.Document) (file : String) (bag : Bag) :
    Point → QueryError → Prop where
  | refuse {chain : List String} {node : Node} {rest : List Node} {e : QueryError}
      (refused : action bag node = .refuse e) : Raises d file bag ⟨chain, node :: rest⟩ e
  | cycle {chain : List String} {refid : String} {rest : List Node} (on : refid ∈ chain) :
      Raises d file bag ⟨chain, .inclusion refid :: rest⟩ (.inclusionCycle (chain ++ [refid]))
  | undefined {chain : List String} {refid : String} {rest : List Node} (off : refid ∉ chain)
      (missing : d.statement? refid = none) :
      Raises d file bag ⟨chain, .inclusion refid :: rest⟩ (.notDefined (file ++ "." ++ refid))

/-! ### Errors

An error travels up unchanged: from the point that raises it through every point
that led there. -/

theorem render_eq_error_of_node {chain : List String} {node : Node} {rest : List Node}
    {e : QueryError} (fails : renderNode bag (inclusionText d file bag chain) node = .error e) :
    (Point.mk chain (node :: rest)).render d file bag = .error e := by
  apply renderNodes_cons_eq_error_iff.mpr
  exact .inl fails

/-- A point that raises an error fails with it. -/
theorem Raises.render_eq_error {p : Point} {e : QueryError} (h : Raises d file bag p e) :
    p.render d file bag = .error e := by
  cases h with
  | refuse refused =>
    apply render_eq_error_of_node
    rw [renderNode_eq_perform, refused, Action.perform]
  | cycle on =>
    apply render_eq_error_of_node
    rw [renderNode, inclusionText_of_mem on]
  | undefined off missing =>
    apply render_eq_error_of_node
    rw [renderNode, inclusionText_of_undefined off missing]

theorem Leads.render_eq_error {p q : Point} (h : Leads d file bag p q) {e : QueryError}
    (fails : q.render d file bag = .error e) : p.render d file bag = .error e := by
  cases h with
  | next rendered =>
    apply renderNodes_cons_eq_error_iff.mpr
    exact .inr ⟨_, rendered, fails⟩
  | enter entered =>
    apply render_eq_error_of_node
    rw [renderNode_eq_perform, entered]
    exact fails
  | block entered =>
    apply render_eq_error_of_node
    rw [renderNode_eq_perform, entered]
    exact map_eq_error_iff.mpr fails
  | inclusion off found =>
    apply render_eq_error_of_node
    rw [renderNode, inclusionText_of_found off found, renderBody_eq]
    exact map_eq_error_iff.mpr fails

/-- A point fails with the error of a point that it reaches. -/
theorem Reaches.render_eq_error {p q : Point} (h : Reaches d file bag p q) {e : QueryError}
    (fails : q.render d file bag = .error e) : p.render d file bag = .error e := by
  induction h using ReflTransGen.head_induction_on with
  | refl => exact fails
  | head leads _ ih => exact leads.render_eq_error ih

/-- If the first node of a point fails, the error is raised at the point or comes
from the nodes that the first node stands for or from the statement it includes. -/
theorem exists_raises_of_node {chain : List String} {node : Node} {rest : List Node}
    {e : QueryError}
    (ihNodes : ∀ e, (Point.mk chain (action bag node).nodes).render d file bag = .error e →
      ∃ q, Reaches d file bag ⟨chain, (action bag node).nodes⟩ q ∧ Raises d file bag q e)
    (ihInclusion : ∀ refid s, refid ∉ chain → d.statement? refid = some s → ∀ e,
      (Point.mk (chain ++ [refid]) s.body).render d file bag = .error e →
        ∃ q, Reaches d file bag ⟨chain ++ [refid], s.body⟩ q ∧ Raises d file bag q e)
    (fails : renderNode bag (inclusionText d file bag chain) node = .error e) :
    ∃ q, Reaches d file bag ⟨chain, node :: rest⟩ q ∧ Raises d file bag q e := by
  rw [renderNode_eq_perform] at fails
  cases haction : action bag node with
  | write text => simp [haction, Action.perform] at fails
  | enter nodes =>
    rw [haction] at fails ihNodes
    obtain ⟨q, reaches, raises⟩ := ihNodes e fails
    exact ⟨q, .head (.enter haction) reaches, raises⟩
  | block nodes =>
    rw [haction] at fails ihNodes
    obtain ⟨q, reaches, raises⟩ := ihNodes e (map_eq_error_iff.mp fails)
    exact ⟨q, .head (.block haction) reaches, raises⟩
  | inclusion refid =>
    obtain rfl := eq_inclusion_of_action haction
    rw [haction, Action.perform] at fails
    by_cases on : refid ∈ chain
    · rw [inclusionText_of_mem on] at fails
      cases fails
      exact ⟨_, .refl, .cycle on⟩
    · cases found : d.statement? refid with
      | none =>
        rw [inclusionText_of_undefined on found] at fails
        cases fails
        exact ⟨_, .refl, .undefined on found⟩
      | some s =>
        rw [inclusionText_of_found on found, renderBody_eq, map_eq_error_iff] at fails
        obtain ⟨q, reaches, raises⟩ := ihInclusion refid s on found e fails
        exact ⟨q, .head (.inclusion on found) reaches, raises⟩
  | refuse error =>
    rw [haction, Action.perform] at fails
    cases fails
    exact ⟨_, .refl, .refuse haction⟩

/-- The error of a point is raised at a point that it reaches. -/
theorem exists_raises_of_render {chain : List String} {nodes : List Node} {e : QueryError}
    (fails : (Point.mk chain nodes).render d file bag = .error e) :
    ∃ q, Reaches d file bag ⟨chain, nodes⟩ q ∧ Raises d file bag q e := by
  -- Each inclusion makes the chain longer, which is the recursion of `renderBody`.
  induction chain, nodes using renderBody.induct d file bag generalizing e with
  | case1 chain nodes ihInclusion =>
    induction nodes using nodes_induction bag generalizing e with
    | nil => simp [Point.render, renderNodes] at fails
    | cons node rest ihNodes ihRest =>
      rcases renderNodes_cons_eq_error_iff.mp fails with first | ⟨text, rendered, later⟩
      · exact exists_raises_of_node (fun e => ihNodes)
          (fun refid s off found e => ihInclusion refid off s found) first
      · obtain ⟨q, reaches, raises⟩ := ihRest later
        exact ⟨q, .head (.next rendered) reaches, raises⟩

/-- A rendering fails with exactly the error that is raised at a point it reaches. -/
theorem render_eq_error_iff {p : Point} {e : QueryError} :
    p.render d file bag = .error e ↔ ∃ q, Reaches d file bag p q ∧ Raises d file bag q e := by
  constructor
  · intro fails
    exact exists_raises_of_render fails
  · rintro ⟨q, reaches, raises⟩
    exact reaches.render_eq_error raises.render_eq_error

/-- The error of a statement is raised at a point that its rendering reaches. -/
theorem renderStatement_eq_error_iff {s : Statement} {e : QueryError} :
    renderStatement d file bag s = .error e
      ↔ ∃ q, Reaches d file bag (.start s) q ∧ Raises d file bag q e := by
  rw [renderStatement, map_eq_error_iff, renderBody_eq, map_eq_error_iff]
  exact render_eq_error_iff (p := .start s)

/-! ### Inclusions

A bag turns a document into a graph of statements: one includes another if the
bag selects its inclusion. The chain of a point is a path in this graph that
meets no id twice.
-/

/-- A statement includes another one, if the bag selects the inclusion. -/
def Includes (d : SqlMapper.Document) (bag : Bag) (s next : Statement) : Prop :=
  ∃ refid, Selected bag s.body (.inclusion refid) ∧ d.statement? refid = some next

/-- The ids on the way from a statement to another along inclusions, each once. -/
inductive Trail (d : SqlMapper.Document) (bag : Bag) (s : Statement) :
    List String → Statement → Prop where
  | start : Trail d bag s [s.id] s
  | step {chain : List String} {last next : Statement} {refid : String}
      (trail : Trail d bag s chain last) (selected : Selected bag last.body (.inclusion refid))
      (off : refid ∉ chain) (found : d.statement? refid = some next) :
      Trail d bag s (chain ++ [refid]) next

theorem Trail.reflTransGen {s last : Statement} {chain : List String}
    (h : Trail d bag s chain last) : ReflTransGen (Includes d bag) s last := by
  induction h with
  | start => exact .refl
  | step _ selected _ found ih => exact ih.tail ⟨_, selected, found⟩

/-- Every id of a trail is the id of a statement on the way. -/
theorem Trail.exists_of_mem {s last : Statement} {chain : List String}
    (h : Trail d bag s chain last) {id : String} (member : id ∈ chain) :
    ∃ via, via.id = id ∧ ReflTransGen (Includes d bag) s via
      ∧ ReflTransGen (Includes d bag) via last := by
  induction h with
  | start => exact ⟨s, (List.mem_singleton.mp member).symm, .refl, .refl⟩
  | @step chain last next refid trail selected off found ih =>
    have step : Includes d bag last next := ⟨refid, selected, found⟩
    rcases List.mem_append.mp member with earlier | newest
    · obtain ⟨via, hid, before, after⟩ := ih earlier
      exact ⟨via, hid, before, after.tail step⟩
    · obtain rfl := List.mem_singleton.mp newest
      exact ⟨next, id_of_statement? found, trail.reflTransGen.tail step, .refl⟩

/-- What a point leads to still lies on a trail, and the bag selects it in the
statement at which the trail ends. -/
theorem Leads.trail {s : Statement} {p q : Point} (h : Leads d file bag p q)
    (trail : ∃ last, Trail d bag s p.chain last
      ∧ ∀ node, Selected bag p.nodes node → Selected bag last.body node) :
    ∃ last, Trail d bag s q.chain last
      ∧ ∀ node, Selected bag q.nodes node → Selected bag last.body node := by
  obtain ⟨last, trail, within⟩ := trail
  cases h with
  | next rendered =>
    refine ⟨last, trail, ?_⟩
    intro node selected
    apply within
    exact selected_cons_iff.mpr (.inr (.inr selected))
  | enter entered =>
    refine ⟨last, trail, ?_⟩
    intro node selected
    apply within
    rw [selected_cons_iff, entered]
    exact .inr (.inl selected)
  | block entered =>
    refine ⟨last, trail, ?_⟩
    intro node selected
    apply within
    rw [selected_cons_iff, entered]
    exact .inr (.inl selected)
  | @inclusion chain refid rest next off found =>
    have selected : Selected bag last.body (.inclusion refid) :=
      within _ (.here List.mem_cons_self)
    refine ⟨next, .step trail selected off found, ?_⟩
    intro node below
    exact below

/-- Wherever the rendering of a statement comes, it is on a trail from that
statement, and what is left to render is selected in the trail's last statement. -/
theorem exists_trail_of_reaches {s : Statement} {p : Point}
    (h : Reaches d file bag (.start s) p) :
    ∃ last, Trail d bag s p.chain last
      ∧ ∀ node, Selected bag p.nodes node → Selected bag last.body node := by
  induction h with
  | refl => exact ⟨s, .start, fun _ selected => selected⟩
  | tail _ leads ih => exact leads.trail ih

end

end SqlMapper.Query
