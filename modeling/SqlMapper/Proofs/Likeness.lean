/-
Module: SqlMapper.Proofs.Likeness
Purpose: Documents that a bag cannot tell apart, and that therefore give the same SQL for it.
Main exports: TextCongruence, Alike, ResultsAlike, renderNodes_alike, DocumentsAlike,
  renderBody_alike, forall₂_renderStatement
-/
import Mathlib.Data.List.Forall2
import SqlMapper.Proofs.ParameterFlow

namespace SqlMapper.Query

open SqlMapper.Condition SqlMapper.Document SqlMapper.Parameter SqlMapper.Text

/-!
Two documents may differ without any difference in what is rendered: where a bag
prunes a branch, what the branch holds does not matter, and where texts are only
written differently, it is enough that they may stand for each other wherever
texts are put together and flattened. Bodies that differ in no other way are
alike for the bag. A rendering then goes through both at the same pace, and
where it comes to an inclusion the included statements are alike as well.
-/

/-- A relation of texts that may stand for each other: texts put together from
related ones are related, and related texts are flattened to the same. -/
structure TextCongruence (R : List Char → List Char → Prop) : Prop where
  refl : ∀ text, R text text
  append : ∀ {a a' b b'}, R a a' → R b b' → R (a ++ b) (a' ++ b')
  flattenChars_eq : ∀ {a b}, R a b → flattenChars a = flattenChars b

/-- Texts stand for themselves. -/
theorem textCongruence_eq : TextCongruence (· = ·) where
  refl _ := rfl
  append := by
    rintro _ _ _ _ rfl rfl
    rfl
  flattenChars_eq := by
    rintro _ _ rfl
    rfl

/-- Bodies that a bag cannot tell apart, with texts that may stand for each other.
What a directive holds has to be alike only if the bag selects it; and of a
choice only the tests are the same up to the first that holds or fails. -/
inductive Alike (bag : Bag) (R : List Char → List Char → Prop) :
    List Node → List Node → Prop where
  | nil : Alike bag R [] []
  | same {rest rest' : List Node} (node : Node) (behind : Alike bag R rest rest') :
      Alike bag R (node :: rest) (node :: rest')
  | text {characters characters' : String} {rest rest' : List Node}
      (texts : R characters.toList characters'.toList) (behind : Alike bag R rest rest') :
      Alike bag R (.text characters :: rest) (.text characters' :: rest')
  | ifTest {test : String} {children children' rest rest' : List Node}
      (inside : Condition.test test bag = .ok true → Alike bag R children children')
      (behind : Alike bag R rest rest') :
      Alike bag R (.ifTest test children :: rest) (.ifTest test children' :: rest')
  | isNotNull {property : String} {children children' rest rest' : List Node}
      (inside : Present bag property → Alike bag R children children')
      (behind : Alike bag R rest rest') :
      Alike bag R (.isNotNull property children :: rest) (.isNotNull property children' :: rest')
  | whereBlock {children children' rest rest' : List Node}
      (inside : Alike bag R children children') (behind : Alike bag R rest rest') :
      Alike bag R (.whereBlock children :: rest) (.whereBlock children' :: rest')
  | decided {skipped skipped' later later' : List (Branch Node)} {test : String}
      {children children' otherwise otherwise' rest rest' : List Node}
      (tests : skipped.map (·.test) = skipped'.map (·.test))
      (skips : ∀ branch ∈ skipped, Condition.test branch.test bag = .ok false)
      (decides : Condition.test test bag ≠ .ok false)
      (inside : Condition.test test bag = .ok true → Alike bag R children children')
      (behind : Alike bag R rest rest') :
      Alike bag R (.choose (skipped ++ ⟨test, children⟩ :: later) otherwise :: rest)
        (.choose (skipped' ++ ⟨test, children'⟩ :: later') otherwise' :: rest')
  | undecided {skipped skipped' : List (Branch Node)}
      {otherwise otherwise' rest rest' : List Node}
      (tests : skipped.map (·.test) = skipped'.map (·.test))
      (skips : ∀ branch ∈ skipped, Condition.test branch.test bag = .ok false)
      (inside : Alike bag R otherwise otherwise') (behind : Alike bag R rest rest') :
      Alike bag R (.choose skipped otherwise :: rest) (.choose skipped' otherwise' :: rest')

/-- The same error, or texts that may stand for each other. -/
inductive ResultsAlike (R : List Char → List Char → Prop) :
    Except QueryError (List Char) → Except QueryError (List Char) → Prop where
  | error (e : QueryError) : ResultsAlike R (.error e) (.error e)
  | ok {text text' : List Char} (texts : R text text') : ResultsAlike R (.ok text) (.ok text')

section

variable {bag : Bag} {R : List Char → List Char → Prop}
  {included : String → Except QueryError (List Char)}

/-! ### One node -/

theorem TextCongruence.resultsAlike_refl (congruence : TextCongruence R)
    (result : Except QueryError (List Char)) : ResultsAlike R result result := by
  cases result with
  | error e => exact .error e
  | ok text => exact .ok (congruence.refl text)

/-- Texts that may stand for each other are the same when they are flattened. -/
theorem TextCongruence.map_flattenChars_eq (congruence : TextCongruence R)
    {result result' : Except QueryError (List Char)} (h : ResultsAlike R result result') :
    result.map flattenChars = result'.map flattenChars := by
  cases h with
  | error e => rfl
  | ok texts => exact congrArg Except.ok (congruence.flattenChars_eq texts)

/-- Texts that may stand for each other give the same block. -/
theorem TextCongruence.map_blockText_eq (congruence : TextCongruence R)
    {result result' : Except QueryError (List Char)} (h : ResultsAlike R result result') :
    result.map blockText = result'.map blockText := by
  cases h with
  | error e => rfl
  | ok texts =>
    simp only [Except.map, blockText, clause?, congruence.flattenChars_eq texts]

/-- Nodes with alike results, in front of bodies with alike results. -/
theorem TextCongruence.resultsAlike_cons (congruence : TextCongruence R) {node node' : Node}
    {rest rest' : List Node}
    (first : ResultsAlike R (renderNode bag included node) (renderNode bag included node'))
    (later : ResultsAlike R (renderNodes bag included rest) (renderNodes bag included rest')) :
    ResultsAlike R (renderNodes bag included (node :: rest))
      (renderNodes bag included (node' :: rest')) := by
  rw [renderNodes, renderNodes]
  generalize renderNode bag included node = front at first ⊢
  generalize renderNode bag included node' = front' at first ⊢
  cases first with
  | error e => exact .error e
  | ok texts =>
    generalize renderNodes bag included rest = back at later ⊢
    generalize renderNodes bag included rest' = back' at later ⊢
    cases later with
    | error e => exact .error e
    | ok others => exact .ok (congruence.append texts others)

/-- Branches whose tests do not hold are passed over. -/
theorem renderNode_choose_append {skipped whens : List (Branch Node)} {otherwise : List Node}
    (skips : ∀ branch ∈ skipped, Condition.test branch.test bag = .ok false) :
    renderNode bag included (.choose (skipped ++ whens) otherwise)
      = renderNode bag included (.choose whens otherwise) := by
  induction skipped with
  | nil => rfl
  | cons branch skipped ih =>
    obtain ⟨test, children⟩ := branch
    rw [List.forall_mem_cons] at skips
    obtain ⟨first, later⟩ := skips
    rw [← ih later, List.cons_append]
    simp only [renderNode, renderBranches, first]

/-- A choice whose branches are all passed over is its last resort. -/
theorem renderNode_choose_of_skips {skipped : List (Branch Node)} {otherwise : List Node}
    (skips : ∀ branch ∈ skipped, Condition.test branch.test bag = .ok false) :
    renderNode bag included (.choose skipped otherwise) = renderNodes bag included otherwise := by
  have bare : renderNode bag included (.choose (skipped ++ []) otherwise)
      = renderNode bag included (.choose [] otherwise) := renderNode_choose_append skips
  rw [List.append_nil] at bare
  rw [bare]
  simp only [renderNode, renderBranches]

/-- A branch whose test holds is the choice, and one whose test fails is its error. -/
theorem renderNode_choose_cons {test : String} {children otherwise : List Node}
    {later : List (Branch Node)} (decides : Condition.test test bag ≠ .ok false) :
    renderNode bag included (.choose (⟨test, children⟩ :: later) otherwise)
      = renderNode bag included (.ifTest test children) := by
  simp only [renderNode, renderBranches]
  cases outcome : Condition.test test bag with
  | error e => rfl
  | ok holds =>
    cases holds with
    | true => cases renderNodes bag included children <;> rfl
    | false => exact absurd outcome decides

theorem renderNode_ifTest_alike {test : String} {children children' : List Node}
    (inside : Condition.test test bag = .ok true → ResultsAlike R
      (renderNodes bag included children) (renderNodes bag included children'))
    (congruence : TextCongruence R) :
    ResultsAlike R (renderNode bag included (.ifTest test children))
      (renderNode bag included (.ifTest test children')) := by
  simp only [renderNode]
  cases outcome : Condition.test test bag with
  | error e => exact .error _
  | ok holds =>
    cases holds with
    | true => exact inside outcome
    | false => exact .ok (congruence.refl [])

theorem renderNode_isNotNull_alike {property : String} {children children' : List Node}
    (inside : Present bag property → ResultsAlike R
      (renderNodes bag included children) (renderNodes bag included children'))
    (congruence : TextCongruence R) :
    ResultsAlike R (renderNode bag included (.isNotNull property children))
      (renderNode bag included (.isNotNull property children')) := by
  rw [renderNode_eq_perform, renderNode_eq_perform]
  by_cases present : Present bag property
  · rw [(action_isNotNull bag property children).1 present,
      (action_isNotNull bag property children').1 present]
    exact inside present
  · rw [(action_isNotNull bag property children).2 present,
      (action_isNotNull bag property children').2 present]
    exact .ok (congruence.refl [])

/-! ### Bodies -/

/-- The tests of the branches that are passed over decide alike. -/
theorem skips_of_tests {skipped skipped' : List (Branch Node)}
    (tests : skipped.map (·.test) = skipped'.map (·.test))
    (skips : ∀ branch ∈ skipped, Condition.test branch.test bag = .ok false) :
    ∀ branch ∈ skipped', Condition.test branch.test bag = .ok false := by
  intro branch member
  have asked : branch.test ∈ skipped.map (·.test) := tests ▸ List.mem_map_of_mem member
  obtain ⟨other, hother, same⟩ := List.mem_map.mp asked
  rw [← same]
  exact skips other hother

/-- A branch whose test does not hold is passed over after others. -/
theorem skips_concat {skipped : List (Branch Node)} {test : String} (children : List Node)
    (skips : ∀ branch ∈ skipped, Condition.test branch.test bag = .ok false)
    (passes : Condition.test test bag = .ok false) :
    ∀ branch ∈ skipped ++ [⟨test, children⟩], Condition.test branch.test bag = .ok false := by
  intro branch member
  rcases List.mem_append.mp member with earlier | newest
  · exact skips branch earlier
  · rw [List.mem_singleton.mp newest]
    exact passes

/-- Alike bodies have alike results, if they include the same. -/
theorem renderNodes_alike (congruence : TextCongruence R) {nodes nodes' : List Node}
    (h : Alike bag R nodes nodes') :
    ResultsAlike R (renderNodes bag included nodes) (renderNodes bag included nodes') := by
  induction h with
  | nil => exact congruence.resultsAlike_refl _
  | same node _ ihBehind =>
    exact congruence.resultsAlike_cons (congruence.resultsAlike_refl _) ihBehind
  | text texts _ ihBehind =>
    apply congruence.resultsAlike_cons _ ihBehind
    simp only [renderNode]
    exact .ok texts
  | ifTest _ _ ihInside ihBehind =>
    exact congruence.resultsAlike_cons (renderNode_ifTest_alike ihInside congruence) ihBehind
  | isNotNull _ _ ihInside ihBehind =>
    exact congruence.resultsAlike_cons (renderNode_isNotNull_alike ihInside congruence) ihBehind
  | whereBlock _ _ ihInside ihBehind =>
    apply congruence.resultsAlike_cons _ ihBehind
    simp only [renderNode, congruence.map_blockText_eq ihInside]
    exact congruence.resultsAlike_refl _
  -- Past the branches that are passed over, a choice is a test of the branch that decides it.
  | decided tests skips decides _ _ ihInside ihBehind =>
    apply congruence.resultsAlike_cons _ ihBehind
    rw [renderNode_choose_append skips, renderNode_choose_append (skips_of_tests tests skips),
      renderNode_choose_cons decides, renderNode_choose_cons decides]
    exact renderNode_ifTest_alike ihInside congruence
  | undecided tests skips _ _ ihInside ihBehind =>
    apply congruence.resultsAlike_cons _ ihBehind
    rw [renderNode_choose_of_skips skips, renderNode_choose_of_skips (skips_of_tests tests skips)]
    exact ihInside

end

/-! ### Documents -/

/-- Statements that a bag cannot tell apart. -/
structure StatementsAlike (bag : Bag) (R : List Char → List Char → Prop) (s s' : Statement) :
    Prop where
  kind : s.kind = s'.kind
  id : s.id = s'.id
  body : Alike bag R s.body s'.body

/-- Documents with alike statements in the same order. -/
abbrev DocumentsAlike (bag : Bag) (R : List Char → List Char → Prop)
    (d d' : SqlMapper.Document) : Prop :=
  List.Forall₂ (StatementsAlike bag R) d.statements d'.statements

section

variable {d d' : SqlMapper.Document} {file : String} {bag : Bag}
  {R : List Char → List Char → Prop}

/-- Alike documents define the same ids, each by alike statements. -/
theorem DocumentsAlike.statement?_cases (alike : DocumentsAlike bag R d d') (id : String) :
    (d.statement? id = none ∧ d'.statement? id = none)
      ∨ ∃ s s', d.statement? id = some s ∧ d'.statement? id = some s'
        ∧ StatementsAlike bag R s s' := by
  simp only [Document.statement?]
  unfold DocumentsAlike at alike
  generalize d.statements = statements at alike ⊢
  generalize d'.statements = statements' at alike ⊢
  induction alike with
  | nil => exact .inl ⟨rfl, rfl⟩
  | @cons s s' rest rest' first _ ih =>
    rw [List.find?_cons, List.find?_cons, ← first.id]
    cases s.id == id with
    | true => exact .inr ⟨s, s', rfl, rfl, first⟩
    | false => exact ih

/-- Alike bodies give the same flattened text in alike documents. -/
theorem renderBody_alike (congruence : TextCongruence R) (alike : DocumentsAlike bag R d d')
    (chain : List String) {body body' : List Node} (h : Alike bag R body body') :
    renderBody d file bag chain body = renderBody d' file bag chain body' := by
  -- An included statement is rendered on a longer chain, where its own body is alike.
  induction chain, body using renderBody.induct d file bag generalizing body' with
  | case1 chain body ih =>
    have same : inclusionText d file bag chain = inclusionText d' file bag chain := by
      funext refid
      by_cases on : refid ∈ chain
      · rw [inclusionText_of_mem on, inclusionText_of_mem on]
      · rcases alike.statement?_cases refid with ⟨missing, missing'⟩ | ⟨s, s', found, found', both⟩
        · rw [inclusionText_of_undefined on missing, inclusionText_of_undefined on missing']
        · rw [inclusionText_of_found on found, inclusionText_of_found on found']
          exact ih refid on s found both.body
    rw [renderBody_eq, renderBody_eq, ← same]
    exact congruence.map_flattenChars_eq (renderNodes_alike congruence h)

/-- Alike documents give the same for every statement and the one in its place. -/
theorem forall₂_renderStatement (congruence : TextCongruence R)
    (alike : DocumentsAlike bag R d d') (file : String) :
    List.Forall₂ (fun s s' => renderStatement d file bag s = renderStatement d' file bag s')
      d.statements d'.statements := by
  apply alike.imp
  intro s s' both
  rw [renderStatement, renderStatement, ← both.id,
    renderBody_alike congruence alike [s.id] both.body]

end

end SqlMapper.Query
