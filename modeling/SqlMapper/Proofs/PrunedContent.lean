/-
Module: SqlMapper.Proofs.PrunedContent
Purpose: What a bag prunes does not matter, and can be left out of a document.
Main exports: pruneNodes, alike_pruneNodes, selected_of_mem_walkAll_pruneNodes,
  pruned_content_irrelevant
-/
import SqlMapper.Proofs.Likeness

namespace SqlMapper.Query

open SqlMapper.Condition SqlMapper.Document SqlMapper.Parameter SqlMapper.Text

/-!
A directive that is pruned is not looked into, nor is a choice behind the branch
that decides it. So two documents give the same if they differ in such places
only, whatever stands there; and the document in which nothing stands there is
one of them. All that is left in it is selected, so that no test, no element and
no inclusion in it is one that was pruned.
-/

/-! ### A document without what is pruned -/

/-- The last resort of a choice, if no branch decides the choice. -/
def lastResort (bag : Bag) (otherwise : List Node) : List (Branch Node) → List Node
  | [] => otherwise
  | ⟨test, _⟩ :: rest =>
      match Condition.test test bag with
      | .ok false => lastResort bag otherwise rest
      | .ok true | .error _ => []

mutual

/-- A node without what a bag prunes below it. -/
def pruneNode (bag : Bag) : Node → Node
  | .ifTest test children =>
      match Condition.test test bag with
      | .ok true => .ifTest test (pruneNodes bag children)
      | .ok false | .error _ => .ifTest test []
  | .choose whens otherwise =>
      .choose (pruneBranches bag whens) (lastResort bag (pruneNodes bag otherwise) whens)
  | .isNotNull property children =>
      match bag property with
      | none => .isNotNull property []
      | some value =>
          if value.isEmpty then .isNotNull property []
          else .isNotNull property (pruneNodes bag children)
  | .whereBlock children => .whereBlock (pruneNodes bag children)
  | .text characters => .text characters
  | .inclusion refid => .inclusion refid
  | .unsupported tag => .unsupported tag
  | .invalid tag error => .invalid tag error

/-- Nodes without what a bag prunes below them. -/
def pruneNodes (bag : Bag) : List Node → List Node
  | [] => []
  | node :: rest => pruneNode bag node :: pruneNodes bag rest

/-- The branches of a choice up to the one that decides it, which alone holds something. -/
def pruneBranches (bag : Bag) : List (Branch Node) → List (Branch Node)
  | [] => []
  | ⟨test, children⟩ :: rest =>
      match Condition.test test bag with
      | .ok false => ⟨test, []⟩ :: pruneBranches bag rest
      | .ok true => [⟨test, pruneNodes bag children⟩]
      | .error _ => [⟨test, []⟩]

end

/-- A statement without what a bag prunes. -/
def pruneStatement (bag : Bag) (s : Statement) : Statement :=
  ⟨s.kind, s.id, pruneNodes bag s.body⟩

/-- A document without what a bag prunes. -/
def pruneDocument (bag : Bag) (d : SqlMapper.Document) : SqlMapper.Document :=
  ⟨d.statements.map (pruneStatement bag)⟩

/-- A property keeps what it holds if it is present, and nothing otherwise. -/
theorem pruneNode_isNotNull (bag : Bag) (property : String) (children : List Node) :
    (Present bag property →
        pruneNode bag (.isNotNull property children)
          = .isNotNull property (pruneNodes bag children))
      ∧ (¬ Present bag property →
        pruneNode bag (.isNotNull property children) = .isNotNull property []) := by
  simp only [pruneNode, Present]
  cases bag property with
  | none => simp
  | some value => by_cases h : value = "" <;> simp [h]

section

variable {bag : Bag}

mutual

theorem alike_pruneNode {rest rest' : List Node} (behind : Alike bag (· = ·) rest rest') :
    ∀ node, Alike bag (· = ·) (node :: rest) (pruneNode bag node :: rest')
  | .ifTest test children => by
      have inside := alike_pruneNodes children
      rw [pruneNode]
      cases outcome : Condition.test test bag with
      | error e => exact .ifTest (fun holds => nomatch outcome.symm.trans holds) behind
      | ok holds =>
        cases holds with
        | true => exact .ifTest (fun _ => inside) behind
        | false => exact .ifTest (fun holds => nomatch outcome.symm.trans holds) behind
  | .choose whens otherwise => by
      rw [pruneNode]
      exact alike_pruneBranches behind (alike_pruneNodes otherwise) [] [] rfl (by simp) whens
  | .isNotNull property children => by
      have inside := alike_pruneNodes children
      by_cases present : Present bag property
      · rw [(pruneNode_isNotNull bag property children).1 present]
        exact .isNotNull (fun _ => inside) behind
      · rw [(pruneNode_isNotNull bag property children).2 present]
        exact .isNotNull (fun holds => absurd holds present) behind
  | .whereBlock children => by
      rw [pruneNode]
      exact .whereBlock (alike_pruneNodes children) behind
  | .text characters => by
      rw [pruneNode]
      exact .same _ behind
  | .inclusion refid => by
      rw [pruneNode]
      exact .same _ behind
  | .unsupported tag => by
      rw [pruneNode]
      exact .same _ behind
  | .invalid tag error => by
      rw [pruneNode]
      exact .same _ behind
termination_by structural node => node

/-- A bag cannot tell a body from the one without what it prunes. -/
theorem alike_pruneNodes : ∀ nodes, Alike bag (· = ·) nodes (pruneNodes bag nodes)
  | [] => by
      rw [pruneNodes]
      exact .nil
  | node :: rest => by
      rw [pruneNodes]
      exact alike_pruneNode (alike_pruneNodes rest) node
termination_by structural nodes => nodes

/-- The branches of a choice behind some that are passed over. -/
theorem alike_pruneBranches {rest rest' otherwise otherwise' : List Node}
    (behind : Alike bag (· = ·) rest rest') (last : Alike bag (· = ·) otherwise otherwise')
    (skipped skipped' : List (Branch Node))
    (tests : skipped.map (·.test) = skipped'.map (·.test))
    (skips : ∀ branch ∈ skipped, Condition.test branch.test bag = .ok false) :
    ∀ whens, Alike bag (· = ·) (.choose (skipped ++ whens) otherwise :: rest)
      (.choose (skipped' ++ pruneBranches bag whens) (lastResort bag otherwise' whens) :: rest')
  | [] => by
      simp only [pruneBranches, lastResort, List.append_nil]
      exact .undecided tests skips last behind
  | ⟨test, children⟩ :: more => by
      have inside := alike_pruneNodes children
      simp only [pruneBranches, lastResort]
      cases outcome : Condition.test test bag with
      | error e =>
        exact .decided tests skips (fun passes => nomatch outcome.symm.trans passes)
          (fun holds => nomatch outcome.symm.trans holds) behind
      | ok holds =>
        cases holds with
        | true =>
          exact .decided tests skips (fun passes => nomatch outcome.symm.trans passes)
            (fun _ => inside) behind
        | false =>
          -- The branch joins the ones that are passed over, with nothing left in it.
          have further := alike_pruneBranches behind last (skipped ++ [⟨test, children⟩])
            (skipped' ++ [⟨test, []⟩]) (by simp [tests]) (skips_concat children skips outcome) more
          simpa using further
termination_by structural whens => whens

end

/-! ### What is left -/

mutual

theorem mem_walk_pruneNode : ∀ node, ∀ below ∈ (pruneNode bag node).walk,
    below = pruneNode bag node ∨ Selected bag (action bag (pruneNode bag node)).nodes below
  | .ifTest test children => by
      have inside := selected_of_mem_walkAll_pruneNodes children
      intro below walked
      rw [pruneNode] at walked ⊢
      cases outcome : Condition.test test bag with
      | error e => exact .inl (by simpa [outcome, Node.walk, walkAll] using walked)
      | ok holds =>
        cases holds with
        | true =>
          have entered : action bag (.ifTest test (pruneNodes bag children))
              = .enter (pruneNodes bag children) := by
            simp only [action, outcome]
          simp only [outcome, Node.walk, List.mem_cons] at walked
          simp only [entered, Action.nodes]
          exact walked.imp_right (inside below)
        | false => exact .inl (by simpa [outcome, Node.walk, walkAll] using walked)
  | .choose whens otherwise => by
      intro below walked
      rw [pruneNode, Node.walk, List.mem_cons] at walked
      rw [pruneNode]
      apply walked.imp_right
      exact mem_walk_pruneBranches (selected_of_mem_walkAll_pruneNodes otherwise) whens below
  | .isNotNull property children => by
      have inside := selected_of_mem_walkAll_pruneNodes children
      intro below walked
      by_cases present : Present bag property
      · rw [(pruneNode_isNotNull bag property children).1 present] at walked ⊢
        rw [Node.walk, List.mem_cons] at walked
        rw [(action_isNotNull bag property _).1 present]
        exact walked.imp_right (inside below)
      · rw [(pruneNode_isNotNull bag property children).2 present] at walked ⊢
        exact .inl (by simpa [Node.walk, walkAll] using walked)
  | .whereBlock children => by
      intro below walked
      rw [pruneNode, Node.walk, List.mem_cons] at walked
      rw [pruneNode]
      apply walked.imp_right
      exact selected_of_mem_walkAll_pruneNodes children below
  | .text characters => by
      simp [pruneNode, Node.walk]
  | .inclusion refid => by
      simp [pruneNode, Node.walk]
  | .unsupported tag => by
      simp [pruneNode, Node.walk]
  | .invalid tag error => by
      simp [pruneNode, Node.walk]

/-- All that a scan meets in a body without what is pruned is selected there. -/
theorem selected_of_mem_walkAll_pruneNodes : ∀ nodes, ∀ node ∈ walkAll (pruneNodes bag nodes),
    Selected bag (pruneNodes bag nodes) node
  | [] => by
      simp [pruneNodes, walkAll]
  | node :: rest => by
      intro below walked
      rw [pruneNodes, walkAll, List.mem_append] at walked
      rw [pruneNodes, selected_cons_iff]
      rcases walked with here | later
      · rcases mem_walk_pruneNode node below here with same | deeper
        · exact .inl same
        · exact .inr (.inl deeper)
      · exact .inr (.inr (selected_of_mem_walkAll_pruneNodes rest below later))

theorem mem_walk_pruneBranches {otherwise : List Node}
    (last : ∀ node ∈ walkAll otherwise, Selected bag otherwise node) :
    ∀ whens, ∀ node ∈ walkBranches (pruneBranches bag whens)
        ++ walkAll (lastResort bag otherwise whens),
      Selected bag (choiceAction bag (lastResort bag otherwise whens)
        (pruneBranches bag whens)).nodes node
  | [] => by
      simp only [pruneBranches, walkBranches, lastResort, choiceAction, Action.nodes,
        List.nil_append]
      exact last
  | ⟨test, children⟩ :: more => by
      have inside := selected_of_mem_walkAll_pruneNodes children
      have further := mem_walk_pruneBranches last more
      simp only [pruneBranches, lastResort]
      cases outcome : Condition.test test bag with
      | error e => simp [walkBranches, walkAll]
      | ok holds =>
        cases holds with
        | true =>
          simpa [walkBranches, walkAll, choiceAction, outcome, Action.nodes] using inside
        | false =>
          simpa [walkBranches, walkAll, choiceAction, outcome] using further

end

/-- A bag cannot tell a document from the one without what it prunes. -/
theorem documentsAlike_pruneDocument (d : SqlMapper.Document) :
    DocumentsAlike bag (· = ·) d (pruneDocument bag d) := by
  rw [DocumentsAlike, pruneDocument, List.forall₂_map_right_iff, List.forall₂_same]
  intro s _
  exact ⟨rfl, rfl, alike_pruneNodes s.body⟩

end

/-- Pruned content is irrelevant. Documents that differ only in what a bag prunes
give the same for each statement, SQL or error; so does the document without all
that, in which nothing is left that is not selected. -/
theorem pruned_content_irrelevant (file : String) (bag : Bag) :
    (∀ d d' : SqlMapper.Document, DocumentsAlike bag (· = ·) d d' →
        List.Forall₂ (fun s s' => renderStatement d file bag s = renderStatement d' file bag s')
          d.statements d'.statements)
      ∧ ∀ d : SqlMapper.Document, ∀ s ∈ d.statements,
        renderStatement (pruneDocument bag d) file bag (pruneStatement bag s)
            = renderStatement d file bag s
          ∧ ∀ node ∈ walkAll (pruneStatement bag s).body,
            Selected bag (pruneStatement bag s).body node := by
  have same : ∀ d d' : SqlMapper.Document, DocumentsAlike bag (· = ·) d d' →
      List.Forall₂ (fun s s' => renderStatement d file bag s = renderStatement d' file bag s')
        d.statements d'.statements :=
    fun _ _ alike => forall₂_renderStatement textCongruence_eq alike file
  refine ⟨same, ?_⟩
  intro d s member
  constructor
  · have both := same d (pruneDocument bag d) (documentsAlike_pruneDocument d)
    rw [pruneDocument, List.forall₂_map_right_iff, List.forall₂_same] at both
    exact (both s member).symm
  · exact selected_of_mem_walkAll_pruneNodes s.body

private def rowsSortedBy (order : Node) : Statement :=
  ⟨"select", "rows", [.text "SELECT * FROM t ", .whereBlock [.inclusion "filter"],
    .isNotNull "sorted" [order]]⟩

private def filterByChoice (first : List Node) (later : List (Branch Node))
    (otherwise : List Node) : Statement :=
  ⟨"sql", "filter",
    [.choose (⟨"a == x", first⟩ :: ⟨"b == x", [.text "AND b = 1"]⟩ :: later) otherwise]⟩

/-- An unsupported element, a cycle and a malformed test, where nothing of them is selected. -/
theorem pruned_content_irrelevant_broken :
    let d : SqlMapper.Document :=
      ⟨[rowsSortedBy (.text "ORDER BY a"), filterByChoice [] [] [.text "c = 1"]]⟩
    let d' : SqlMapper.Document :=
      ⟨[rowsSortedBy (.unsupported "foreach"),
        filterByChoice [.inclusion "rows"] [⟨"c", [.text "c"]⟩] []]⟩
    let bag : Bag := fun name => if name = "b" then some "x" else none
    DocumentsAlike bag (· = ·) d d'
      ∧ renderStatement d "Test" bag (rowsSortedBy (.text "ORDER BY a"))
        = renderStatement d' "Test" bag (rowsSortedBy (.unsupported "foreach")) := by
  intro d d' bag
  have absent : ¬ Present bag "sorted" := by
    rintro ⟨value, found, _⟩
    cases found
  have rows : StatementsAlike bag (· = ·) (rowsSortedBy (.text "ORDER BY a"))
      (rowsSortedBy (.unsupported "foreach")) :=
    ⟨rfl, rfl, .same _ (.same _ (.isNotNull (fun present => absurd present absent) .nil))⟩
  have filter : StatementsAlike bag (· = ·) (filterByChoice [] [] [.text "c = 1"])
      (filterByChoice [.inclusion "rows"] [⟨"c", [.text "c"]⟩] []) := by
    have tests : [(⟨"a == x", []⟩ : Branch Node)].map (·.test)
        = [(⟨"a == x", [.inclusion "rows"]⟩ : Branch Node)].map (·.test) := rfl
    have skips : ∀ branch ∈ [(⟨"a == x", []⟩ : Branch Node)],
        Condition.test branch.test bag = .ok false := by
      intro branch member
      rw [List.mem_singleton.mp member]
      rfl
    exact ⟨rfl, rfl, .decided tests skips (by decide) (fun _ => .same _ .nil) .nil⟩
  have alike : DocumentsAlike bag (· = ·) d d' := .cons rows (.cons filter .nil)
  have same := (pruned_content_irrelevant "Test" bag).1 d d' alike
  exact ⟨alike, (List.forall₂_cons.mp same).1⟩

end SqlMapper.Query
