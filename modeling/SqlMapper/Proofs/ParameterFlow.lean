/-
Module: SqlMapper.Proofs.ParameterFlow
Purpose: Parameters decide what is rendered and are never part of it.
Main exports: Present, action_congr, renderNodes_congr, renderBody_congr, TestsName, LooksUp,
  parameters_only_decide
-/
import SqlMapper.Parameter.Record
import SqlMapper.Proofs.InclusionClosure

namespace SqlMapper.Query

open SqlMapper.Condition SqlMapper.Document SqlMapper.Parameter SqlMapper.Text
open Relation

/-!
A bag comes into a rendering at two places only: the outcome of a test, and
whether a property has a value that is not empty. Two bags that agree there make
the same of every node, and so the same of every statement, errors included.
-/

/-- A bag has something under a name: a value that is not the empty text. -/
def Present (bag : Bag) (name : String) : Prop := ∃ value, bag name = some value ∧ value ≠ ""

/-! ### Two bags that decide alike -/

theorem choiceAction_congr {p q : Bag} (otherwise : List Node) {whens : List (Branch Node)}
    (tests : ∀ branch ∈ whens, Condition.test branch.test p = Condition.test branch.test q) :
    choiceAction p otherwise whens = choiceAction q otherwise whens := by
  induction whens with
  | nil => rfl
  | cons branch rest ih =>
    obtain ⟨test, children⟩ := branch
    have hrest : choiceAction p otherwise rest = choiceAction q otherwise rest := by
      apply ih
      intro branch member
      exact tests branch (List.mem_cons_of_mem _ member)
    have hfirst : Condition.test test p = Condition.test test q :=
      tests ⟨test, children⟩ List.mem_cons_self
    simp only [choiceAction, hfirst, hrest]

/-- A property is rendered if it is present, and what it holds is dropped otherwise. -/
theorem action_isNotNull (bag : Bag) (property : String) (children : List Node) :
    (Present bag property → action bag (.isNotNull property children) = .enter children)
      ∧ (¬ Present bag property → action bag (.isNotNull property children) = .write []) := by
  simp only [action, Present]
  cases bag property with
  | none => simp
  | some value => by_cases h : value = "" <;> simp [h]

/-- Bags that agree on the tests and the property of a node make the same of it. -/
theorem action_congr {p q : Bag} {node : Node}
    (tests : ∀ test ∈ nodeTests node, Condition.test test p = Condition.test test q)
    (presence : ∀ property children, node = .isNotNull property children →
      (Present p property ↔ Present q property)) :
    action p node = action q node := by
  cases node with
  | ifTest test children =>
    have := tests test (List.mem_singleton.mpr rfl)
    simp only [action, this]
  | choose whens otherwise =>
    apply choiceAction_congr
    intro branch member
    exact tests branch.test (List.mem_map_of_mem member)
  | isNotNull property children =>
    have same := presence property children rfl
    by_cases h : Present p property
    · rw [(action_isNotNull p property children).1 h,
        (action_isNotNull q property children).1 (same.mp h)]
    · rw [(action_isNotNull p property children).2 h,
        (action_isNotNull q property children).2 fun hq => h (same.mpr hq)]
  | text characters => rfl
  | inclusion refid => rfl
  | whereBlock children => rfl
  | unsupported tag => rfl
  | invalid tag error => rfl

/-- A body gives the same result for bags that make the same of every selected
node, if the selected inclusions give the same. -/
theorem renderNodes_congr {p q : Bag} {included other : String → Except QueryError (List Char)}
    {nodes : List Node} (actions : ∀ node, Selected p nodes node → action p node = action q node)
    (inclusions : ∀ refid, Selected p nodes (.inclusion refid) → included refid = other refid) :
    renderNodes p included nodes = renderNodes q other nodes := by
  induction nodes using nodes_induction p with
  | nil => simp only [renderNodes]
  | cons node rest ihAction ihRest =>
    have hrest : renderNodes p included rest = renderNodes q other rest := by
      apply ihRest
      · intro node selected
        exact actions node (selected_cons_iff.mpr (.inr (.inr selected)))
      · intro refid selected
        exact inclusions refid (selected_cons_iff.mpr (.inr (.inr selected)))
    have hnodes : renderNodes p included (action p node).nodes
        = renderNodes q other (action p node).nodes := by
      apply ihAction
      · intro node selected
        exact actions node (selected_cons_iff.mpr (.inr (.inl selected)))
      · intro refid selected
        exact inclusions refid (selected_cons_iff.mpr (.inr (.inl selected)))
    have hnode : renderNode p included node = renderNode q other node := by
      rw [renderNode_eq_perform, renderNode_eq_perform,
        ← actions node (selected_cons_iff.mpr (.inl rfl))]
      cases haction : action p node with
      | write text => rfl
      | enter nodes =>
        rw [haction] at hnodes
        exact hnodes
      | block nodes =>
        rw [haction] at hnodes
        exact congrArg (Except.map blockText) hnodes
      | inclusion refid =>
        have hsame : node = .inclusion refid := eq_inclusion_of_action haction
        exact inclusions refid (selected_cons_iff.mpr (.inl hsame.symm))
      | refuse error => rfl
    simp only [renderNodes, hnode, hrest]

/-- What stands in the closure of an included statement stands in the closure. -/
theorem standsIn_of_mayInclude {d : SqlMapper.Document} {s next : Statement} {node : Node}
    (step : MayInclude d s next) (h : StandsIn d next node) : StandsIn d s node := by
  obtain ⟨via, closure, walked⟩ := h
  exact ⟨via, .head step closure, walked⟩

/-- A statement gives the same result for bags that make the same of every node
in its closure. -/
theorem renderBody_congr {d : SqlMapper.Document} {file : String} {p q : Bag} {s : Statement}
    (actions : ∀ node, StandsIn d s node → action p node = action q node) (chain : List String) :
    renderBody d file p chain s.body = renderBody d file q chain s.body := by
  generalize hbody : s.body = body
  induction chain, body using renderBody.induct d file p generalizing s with
  | case1 chain body ih =>
    subst hbody
    rw [renderBody_eq, renderBody_eq]
    apply congrArg (Except.map flattenChars)
    apply renderNodes_congr
    · intro node selected
      exact actions node ⟨s, .refl, selected.mem_walkAll⟩
    · intro refid selected
      by_cases on : refid ∈ chain
      · rw [inclusionText_of_mem on, inclusionText_of_mem on]
      · cases found : d.statement? refid with
        | none => rw [inclusionText_of_undefined on found, inclusionText_of_undefined on found]
        | some next =>
          rw [inclusionText_of_found on found, inclusionText_of_found on found]
          have step : MayInclude d s next := ⟨refid, selected.mem_walkAll, found⟩
          apply ih refid on next found _ rfl
          intro node stands
          exact actions node (standsIn_of_mayInclude step stands)

/-- Bags that agree on the tests and the properties in the closure of a statement
give the same result for it. -/
theorem renderStatement_congr {d : SqlMapper.Document} {file : String} {s : Statement} {p q : Bag}
    (tests : ∀ test, TestStandsIn d s test → Condition.test test p = Condition.test test q)
    (presence : ∀ property children, StandsIn d s (.isNotNull property children) →
      (Present p property ↔ Present q property)) :
    renderStatement d file p s = renderStatement d file q s := by
  apply congrArg (Except.map String.ofList)
  apply renderBody_congr
  intro node stands
  apply action_congr
  · intro test asked
    exact tests test ⟨node, stands, asked⟩
  · rintro property children rfl
    exact presence property children stands

/-! ### Names that are looked up -/

/-- A test in the closure of a statement asks for a name. -/
def TestsName (d : SqlMapper.Document) (s : Statement) (name : String) : Prop :=
  ∃ test x, TestStandsIn d s test ∧ Expression.parse test = .ok x ∧ x.property = name

/-- Something in the closure of a statement asks for a name. -/
def LooksUp (d : SqlMapper.Document) (s : Statement) (name : String) : Prop :=
  TestsName d s name ∨ ∃ children, StandsIn d s (.isNotNull name children)

/-- A test comes to the same for bags that agree on the name it asks for. -/
theorem test_congr {test : String} {p q : Bag}
    (h : ∀ x, Expression.parse test = .ok x → p x.property = q x.property) :
    Condition.test test p = Condition.test test q := by
  unfold Condition.test
  cases hread : Expression.parse test with
  | error e => rfl
  | ok x => simp only [Expression.evaluate, h x hread]

/-- Bags that agree on the names that are tested, and on the presence of the
others, give the same result. -/
theorem renderStatement_congr_of_names {d : SqlMapper.Document} {file : String} {s : Statement}
    {p q : Bag} (tested : ∀ name, TestsName d s name → p name = q name)
    (presence : ∀ property children, StandsIn d s (.isNotNull property children) →
      (Present p property ↔ Present q property)) :
    renderStatement d file p s = renderStatement d file q s := by
  apply renderStatement_congr _ presence
  intro test stands
  apply test_congr
  intro x read
  exact tested x.property ⟨test, x, stands, read, rfl⟩

/-- A null value under a new name leaves every look-up of a record as it was. -/
theorem lookup_insert_null {r : Record} {name : String} {value : Value}
    (absent : r.contains name = false) (null : value.text? = none) :
    (r.insert name value).lookup = r.lookup := by
  funext other
  simp only [Record.contains, Dictionary.contains, Option.isSome_eq_false_iff,
    Option.isNone_iff_eq_none] at absent
  simp only [Record.lookup, Record.insert, Dictionary.find?_insert, null]
  split
  · rename_i same
    simp [same, absent]
  · rfl

/-- A null field with a new name leaves every look-up of a JSON object as it was. -/
theorem lookup_json_null {fields : List (String × Json.Value)} {name : String}
    (absent : fields.lookup name = none) :
    (Source.json (.object ((name, .null) :: fields))).lookup
      = (Source.json (.object fields)).lookup := by
  funext other
  simp only [Source.lookup, Json.Value.field?, Dictionary.lookup_cons_eq]
  split
  · rename_i same
    simp [same, absent, jsonText?]
  · rfl

/-- Parameter values never flow into the SQL. Rendering a statement comes to the
same, SQL or error, for bags that agree on every test in its closure and on the
presence of every property there; so for bags that agree on all names that are
looked up, for a record or a JSON object with or without a null under a name,
and for bags that have nothing but a null or an empty value under a name that no
test asks for. -/
theorem parameters_only_decide (d : SqlMapper.Document) (file : String) (s : Statement) :
    (∀ p q : Bag,
        (∀ test, TestStandsIn d s test → Condition.test test p = Condition.test test q) →
        (∀ property children, StandsIn d s (.isNotNull property children) →
          (Present p property ↔ Present q property)) →
        renderStatement d file p s = renderStatement d file q s)
      ∧ (∀ p q : Bag, (∀ name, LooksUp d s name → p name = q name) →
        renderStatement d file p s = renderStatement d file q s)
      ∧ (∀ (r : Record) (name : String) (value : Value),
        r.contains name = false → value.text? = none →
        renderStatement d file (r.insert name value).lookup s
          = renderStatement d file r.lookup s)
      ∧ (∀ (fields : List (String × Json.Value)) (name : String), fields.lookup name = none →
        renderStatement d file (Source.json (.object ((name, .null) :: fields))).lookup s
          = renderStatement d file (Source.json (.object fields)).lookup s)
      ∧ (∀ (p q : Bag) (name : String), (∀ other, other ≠ name → p other = q other) →
        ¬ Present p name → ¬ Present q name → ¬ TestsName d s name →
        renderStatement d file p s = renderStatement d file q s) := by
  refine ⟨?_, ?_, ?_, ?_, ?_⟩
  · intro p q tests presence
    exact renderStatement_congr tests presence
  · intro p q agree
    apply renderStatement_congr_of_names
    · intro name tested
      exact agree name (.inl tested)
    · intro property children stands
      simp only [Present, agree property (.inr ⟨children, stands⟩)]
  · intro r name value absent null
    rw [lookup_insert_null absent null]
  · intro fields name absent
    rw [lookup_json_null absent]
  · intro p q name agree absentP absentQ untested
    apply renderStatement_congr_of_names
    · intro other tested
      apply agree
      rintro rfl
      exact untested tested
    · intro property children _
      by_cases same : property = name
      · subst same
        exact iff_of_false absentP absentQ
      · simp only [Present, agree property same]

/-- A value that holds a quote and SQL makes no difference to one that holds a word. -/
theorem parameters_only_decide_quoted :
    let find : Statement :=
      ⟨"select", "find", [.text "SELECT * FROM t",
        .whereBlock [.isNotNull "name" [.text "AND name = @name"]]]⟩
    let quoted : Bag := fun name => if name = "name" then some "x' OR '1' = '1" else none
    let word : Bag := fun name => if name = "name" then some "Jane" else none
    renderStatement ⟨[find]⟩ "Test" quoted find = renderStatement ⟨[find]⟩ "Test" word find := by
  intro find quoted word
  have stands : ∀ node, StandsIn ⟨[find]⟩ find node → node ∈ walkAll find.body := by
    rintro node ⟨via, closure, walked⟩
    have := mem_statements_of_inClosure List.mem_cons_self closure
    rwa [List.mem_singleton.mp this] at walked
  refine (parameters_only_decide ⟨[find]⟩ "Test" find).1 quoted word ?_ ?_
  · rintro test ⟨node, hnode, asked⟩
    have := stands node hnode
    simp only [find, walkAll, Node.walk, List.append_nil, List.cons_append, List.nil_append,
      List.mem_cons, List.not_mem_nil, or_false] at this
    rcases this with rfl | rfl | rfl | rfl <;> cases asked
  · intro property children hnode
    have := stands _ hnode
    simp only [find, walkAll, Node.walk, List.append_nil, List.cons_append, List.nil_append,
      List.mem_cons, reduceCtorEq, Node.isNotNull.injEq, List.not_mem_nil, or_false, false_or]
      at this
    obtain ⟨rfl, _⟩ := this
    exact iff_of_true ⟨_, rfl, by decide⟩ ⟨_, rfl, by decide⟩

end SqlMapper.Query
