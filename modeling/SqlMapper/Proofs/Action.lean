/-
Module: SqlMapper.Proofs.Action
Purpose: What a parameter bag makes of one node, and the nodes that a bag selects in a body.
Main exports: Action, action, renderNode_eq_perform, nodes_induction, Selected,
  renderNode_ok_of_selected, renderNodes_ok_mono
-/
import SqlMapper.Query.Rendering

namespace SqlMapper

variable {ε α β : Type}

theorem map_eq_ok_iff {f : α → β} {x : Except ε α} {b : β} :
    x.map f = .ok b ↔ ∃ a, x = .ok a ∧ f a = b := by
  cases x <;> simp [Except.map]

theorem map_eq_error_iff {f : α → β} {x : Except ε α} {e : ε} :
    x.map f = .error e ↔ x = .error e := by
  cases x <;> simp [Except.map]

end SqlMapper

namespace SqlMapper.Query

open SqlMapper.Condition SqlMapper.Document SqlMapper.Parameter

/-!
A bag settles a node before anything below the node is looked at: the node
writes a text, stands for other nodes, names a statement to include, or cannot
be rendered. Which of these it is depends on the bag alone and neither on the
statements being rendered nor on what was rendered before, so that everything
about selection can be said of actions, and rendering is what performs them.
-/

/-- What a bag makes of a node. -/
inductive Action where
  | write (text : List Char)
  | enter (nodes : List Node)
  | block (nodes : List Node)
  | inclusion (refid : String)
  | refuse (error : QueryError)
deriving Repr, Inhabited

/-- What a bag makes of the branches of a choice, with its last resort. -/
def choiceAction (bag : Bag) (otherwise : List Node) : List (Branch Node) → Action
  | [] => .enter otherwise
  | ⟨test, children⟩ :: rest =>
      match Condition.test test bag with
      | .error e => .refuse (.condition e)
      | .ok true => .enter children
      | .ok false => choiceAction bag otherwise rest

/-- What a bag makes of a node. -/
def action (bag : Bag) : Node → Action
  | .text characters => .write characters.toList
  | .ifTest test children =>
      match Condition.test test bag with
      | .error e => .refuse (.condition e)
      | .ok true => .enter children
      | .ok false => .write []
  | .choose whens otherwise => choiceAction bag otherwise whens
  | .isNotNull property children =>
      match bag property with
      | none => .write []
      | some value => if value.isEmpty then .write [] else .enter children
  | .inclusion refid => .inclusion refid
  | .whereBlock children => .block children
  | .unsupported tag => .refuse (.unsupportedTag tag)
  | .invalid _ error => .refuse (.markup error)

namespace Action

/-- The nodes that an action stands for. -/
def nodes : Action → List Node
  | .enter nodes | .block nodes => nodes
  | .write _ | .inclusion _ | .refuse _ => []

/-- The text of an action. -/
def perform (bag : Bag) (included : String → Except QueryError (List Char)) :
    Action → Except QueryError (List Char)
  | .write text => .ok text
  | .enter nodes => renderNodes bag included nodes
  | .block nodes => (renderNodes bag included nodes).map blockText
  | .inclusion refid => included refid
  | .refuse error => .error error

end Action

theorem perform_choiceAction (bag : Bag) (included : String → Except QueryError (List Char))
    (whens : List (Branch Node)) (otherwise : List Node) :
    renderNode bag included (.choose whens otherwise)
      = (choiceAction bag otherwise whens).perform bag included := by
  induction whens with
  | nil => simp only [renderNode, renderBranches, choiceAction, Action.perform]
  | cons branch rest ih =>
    obtain ⟨test, children⟩ := branch
    simp only [renderNode, renderBranches, choiceAction] at ih ⊢
    cases Condition.test test bag with
    | error e => rfl
    | ok holds =>
      cases holds with
      | true =>
        simp only [Action.perform]
        cases renderNodes bag included children <;> rfl
      | false => exact ih

/-- Rendering a node performs its action. -/
theorem renderNode_eq_perform (bag : Bag) (included : String → Except QueryError (List Char))
    (node : Node) : renderNode bag included node = (action bag node).perform bag included := by
  cases node with
  | text characters => simp only [renderNode, action, Action.perform]
  | ifTest test children =>
    simp only [renderNode, action]
    cases Condition.test test bag with
    | error e => rfl
    | ok holds => cases holds <;> rfl
  | choose whens otherwise => exact perform_choiceAction bag included whens otherwise
  | isNotNull property children =>
    simp only [renderNode, action]
    cases bag property with
    | none => rfl
    | some value =>
      simp only
      split <;> rfl
  | inclusion refid => simp only [renderNode, action, Action.perform]
  | whereBlock children => simp only [renderNode, action, Action.perform]
  | unsupported tag => simp only [renderNode, action, Action.perform]
  | invalid tag error => simp only [renderNode, action, Action.perform]

theorem choiceAction_ne_inclusion (bag : Bag) (otherwise : List Node) (whens : List (Branch Node))
    (refid : String) : choiceAction bag otherwise whens ≠ .inclusion refid := by
  induction whens with
  | nil => simp [choiceAction]
  | cons branch rest ih =>
    obtain ⟨test, children⟩ := branch
    simp only [choiceAction]
    split
    · simp
    · simp
    · exact ih

/-- Only an inclusion includes a statement. -/
theorem eq_inclusion_of_action {bag : Bag} {node : Node} {refid : String}
    (h : action bag node = .inclusion refid) : node = .inclusion refid := by
  cases node with
  | text characters => cases h
  | ifTest test children =>
    simp only [action] at h
    split at h <;> cases h
  | choose whens otherwise => exact absurd h (choiceAction_ne_inclusion bag otherwise whens refid)
  | isNotNull property children =>
    simp only [action] at h
    split at h
    · cases h
    · split at h <;> cases h
  | inclusion other =>
    cases h
    rfl
  | whereBlock children => cases h
  | unsupported tag => cases h
  | invalid tag error => cases h

/-! ### Induction along actions

The nodes that an action stands for, and all below them, stand below the node in
the document. So a body has fewer nodes in it after each step into it, and a
property of bodies holds if it passes from what the first node stands for, and
from the other nodes, to the body.
-/

theorem walkAll_choiceAction_sublist (bag : Bag) (otherwise : List Node)
    (whens : List (Branch Node)) :
    (walkAll (choiceAction bag otherwise whens).nodes).Sublist
      (walkBranches whens ++ walkAll otherwise) := by
  induction whens with
  | nil => exact .refl _
  | cons branch rest ih =>
    obtain ⟨test, children⟩ := branch
    simp only [choiceAction, walkBranches, List.append_assoc]
    cases Condition.test test bag with
    | error e => exact List.nil_sublist _
    | ok holds =>
      cases holds with
      | true => exact List.sublist_append_left _ _
      | false => exact ih.trans (List.sublist_append_right _ _)

/-- What a bag makes of a node is part of what stands below it. -/
theorem walkAll_action_sublist (bag : Bag) (node : Node) :
    (walkAll (action bag node).nodes).Sublist node.walk.tail := by
  cases node with
  | text characters => exact List.nil_sublist _
  | ifTest test children =>
    simp only [action, Node.walk, List.tail_cons]
    cases Condition.test test bag with
    | error e => exact List.nil_sublist _
    | ok holds =>
      cases holds with
      | true => exact .refl _
      | false => exact List.nil_sublist _
  | choose whens otherwise => exact walkAll_choiceAction_sublist bag otherwise whens
  | isNotNull property children =>
    simp only [action, Node.walk, List.tail_cons]
    cases bag property with
    | none => exact List.nil_sublist _
    | some value =>
      simp only
      split
      · exact List.nil_sublist _
      · exact .refl _
  | inclusion refid => exact List.nil_sublist _
  | whereBlock children => exact .refl _
  | unsupported tag => exact List.nil_sublist _
  | invalid tag error => exact List.nil_sublist _

/-- What a bag makes of a node is among the nodes below it. -/
theorem mem_walk_of_action {bag : Bag} {node below : Node}
    (h : below ∈ walkAll (action bag node).nodes) : below ∈ node.walk :=
  List.mem_of_mem_tail ((walkAll_action_sublist bag node).mem h)

theorem walk_ne_nil (node : Node) : node.walk ≠ [] := by
  cases node <;> simp [Node.walk]

/-- There are fewer nodes in what a bag makes of a node than the node and those below it. -/
theorem length_walkAll_action_lt (bag : Bag) (node : Node) :
    (walkAll (action bag node).nodes).length < node.walk.length := by
  have below := (walkAll_action_sublist bag node).length_le
  have here := List.length_pos_iff.mpr (walk_ne_nil node)
  rw [List.length_tail] at below
  omega

/-- Induction over bodies, along what a bag makes of their nodes. -/
theorem nodes_induction (bag : Bag) {P : List Node → Prop} (nil : P [])
    (cons : ∀ node rest, P (action bag node).nodes → P rest → P (node :: rest)) :
    ∀ nodes, P nodes
  | [] => nil
  | node :: rest =>
      have := length_walkAll_action_lt bag node
      cons node rest (nodes_induction bag nil cons (action bag node).nodes)
        (nodes_induction bag nil cons rest)
termination_by nodes => (walkAll nodes).length
decreasing_by
  · rw [walkAll, List.length_append]
    omega
  · rw [walkAll, List.length_append]
    omega

/-! ### Selected nodes

A node is selected if it stands in the body or in what the bag makes of a
selected directive. Selection asks no question of the statements around, so a
selected node may still stand behind one that cannot be rendered.
-/

/-- The nodes that a bag selects in a body. -/
inductive Selected (bag : Bag) : List Node → Node → Prop where
  | here {nodes : List Node} {node : Node} (member : node ∈ nodes) : Selected bag nodes node
  | under {nodes : List Node} {node selected : Node} (member : node ∈ nodes)
      (deeper : Selected bag (action bag node).nodes selected) : Selected bag nodes selected

theorem Selected.mono {bag : Bag} {part nodes : List Node} {node : Node}
    (within : ∀ node ∈ part, node ∈ nodes) (h : Selected bag part node) :
    Selected bag nodes node := by
  cases h with
  | here member => exact .here (within _ member)
  | under member deeper => exact .under (within _ member) deeper

/-- A body selects what its first node stands for, and what its other nodes select. -/
theorem selected_cons_iff {bag : Bag} {node selected : Node} {rest : List Node} :
    Selected bag (node :: rest) selected
      ↔ selected = node ∨ Selected bag (action bag node).nodes selected
        ∨ Selected bag rest selected := by
  constructor
  · intro h
    cases h with
    | here member =>
      rcases List.mem_cons.mp member with rfl | member
      · exact .inl rfl
      · exact .inr (.inr (.here member))
    | under member deeper =>
      rcases List.mem_cons.mp member with rfl | member
      · exact .inr (.inl deeper)
      · exact .inr (.inr (.under member deeper))
  · rintro (rfl | deeper | later)
    · exact .here List.mem_cons_self
    · exact .under List.mem_cons_self deeper
    · apply later.mono
      intro node member
      exact List.mem_cons_of_mem _ member

theorem mem_walk_self (node : Node) : node ∈ node.walk := by
  cases node <;> simp [Node.walk]

/-- The scan of a body meets whatever a bag selects in it. -/
theorem Selected.mem_walkAll {bag : Bag} {nodes : List Node} {node : Node}
    (h : Selected bag nodes node) : node ∈ walkAll nodes := by
  induction nodes using nodes_induction bag with
  | nil => cases h with
    | here member => cases member
    | under member _ => cases member
  | cons first rest ihAction ihRest =>
    rw [walkAll, List.mem_append]
    rcases selected_cons_iff.mp h with rfl | deeper | later
    · exact .inl (mem_walk_self _)
    · exact .inl (mem_walk_of_action (ihAction deeper))
    · exact .inr (ihRest later)

/-! ### Rendering and selection -/

section

variable {bag : Bag} {included other : String → Except QueryError (List Char)}

theorem renderNodes_cons_eq_ok_iff {node : Node} {rest : List Node} {text : List Char} :
    renderNodes bag included (node :: rest) = .ok text
      ↔ ∃ first later, renderNode bag included node = .ok first
        ∧ renderNodes bag included rest = .ok later ∧ first ++ later = text := by
  simp only [renderNodes]
  cases renderNode bag included node with
  | error e => simp
  | ok first => simp [map_eq_ok_iff]

theorem renderNodes_cons_eq_error_iff {node : Node} {rest : List Node} {e : QueryError} :
    renderNodes bag included (node :: rest) = .error e
      ↔ renderNode bag included node = .error e
        ∨ ∃ first, renderNode bag included node = .ok first
          ∧ renderNodes bag included rest = .error e := by
  simp only [renderNodes]
  cases renderNode bag included node with
  | error other => simp
  | ok first => simp [map_eq_error_iff]

theorem perform_ok_of_nodes {a : Action} {text : List Char}
    (h : a.perform bag included = .ok text) :
    ∃ text, renderNodes bag included a.nodes = .ok text := by
  cases a with
  | enter nodes => exact ⟨text, h⟩
  | block nodes =>
    obtain ⟨inner, hinner, _⟩ := map_eq_ok_iff.mp h
    exact ⟨inner, hinner⟩
  | write text => exact ⟨[], by simp [Action.nodes, renderNodes]⟩
  | inclusion refid => exact ⟨[], by simp [Action.nodes, renderNodes]⟩
  | refuse error => exact ⟨[], by simp [Action.nodes, renderNodes]⟩

/-- Whatever is selected in a body that can be rendered can be rendered itself. -/
theorem renderNode_ok_of_selected {nodes : List Node} {node : Node} {text : List Char}
    (h : renderNodes bag included nodes = .ok text) (selected : Selected bag nodes node) :
    ∃ text, renderNode bag included node = .ok text := by
  induction nodes using nodes_induction bag generalizing text with
  | nil => cases selected with
    | here member => cases member
    | under member _ => cases member
  | cons first rest ihAction ihRest =>
    obtain ⟨head, later, hhead, hlater, _⟩ := renderNodes_cons_eq_ok_iff.mp h
    rcases selected_cons_iff.mp selected with rfl | deeper | behind
    · exact ⟨head, hhead⟩
    · rw [renderNode_eq_perform] at hhead
      obtain ⟨inner, hinner⟩ := perform_ok_of_nodes hhead
      exact ihAction hinner deeper
    · exact ihRest hlater behind

/-- A body that can be rendered gives the same text with other inclusions, if
they give the same texts for the inclusions that the bag selects. -/
theorem renderNodes_ok_mono {nodes : List Node}
    (agree : ∀ refid, Selected bag nodes (.inclusion refid) →
      ∀ text, included refid = .ok text → other refid = .ok text)
    {text : List Char} (h : renderNodes bag included nodes = .ok text) :
    renderNodes bag other nodes = .ok text := by
  induction nodes using nodes_induction bag generalizing text with
  | nil => simpa only [renderNodes] using h
  | cons node rest ihAction ihRest =>
    obtain ⟨first, later, hfirst, hlater, htext⟩ := renderNodes_cons_eq_ok_iff.mp h
    have hrest : renderNodes bag other rest = .ok later := by
      apply ihRest _ hlater
      intro refid selected
      exact agree refid (selected_cons_iff.mpr (.inr (.inr selected)))
    have hnodes : ∀ {text}, renderNodes bag included (action bag node).nodes = .ok text →
        renderNodes bag other (action bag node).nodes = .ok text := by
      apply ihAction
      intro refid selected
      exact agree refid (selected_cons_iff.mpr (.inr (.inl selected)))
    refine renderNodes_cons_eq_ok_iff.mpr ⟨first, later, ?_, hrest, htext⟩
    rw [renderNode_eq_perform] at hfirst ⊢
    cases haction : action bag node with
    | write text => simpa only [haction, Action.perform] using hfirst
    | enter nodes =>
      rw [haction] at hfirst hnodes
      exact hnodes hfirst
    | block nodes =>
      rw [haction] at hfirst hnodes
      obtain ⟨inner, hinner, hblock⟩ := map_eq_ok_iff.mp hfirst
      exact map_eq_ok_iff.mpr ⟨inner, hnodes hinner, hblock⟩
    | inclusion refid =>
      have hnode : node = .inclusion refid := eq_inclusion_of_action haction
      rw [haction] at hfirst
      exact agree refid (selected_cons_iff.mpr (.inl hnode.symm)) first hfirst
    | refuse error => simp [haction, Action.perform] at hfirst

end

end SqlMapper.Query
