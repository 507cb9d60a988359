/-
Module: SqlMapper.Proofs.LetterCase
Purpose: The case of letters in the names of directives and attributes does not matter.
Main exports: foldName, foldTag, foldInsideAll, foldOutsideAll, foldTagsAll,
  buildNodes_foldInsideAll, ofContents_foldOutsideAll, renderNodes_foldTagsAll,
  renderStatement_foldTags, letter_case_immaterial
-/
import SqlMapper.Proofs.Course

namespace SqlMapper.Document

open SqlMapper.Markup SqlMapper.Text

/-!
Trees are compared regardless of the case of letters by folding them: the keys
of attributes are written in small letters, and so are the names of elements
inside statements that are names of directives. Folding does not ask how
directives and attributes are looked up. Building and rendering commute with
it: folded trees are built as the same document with the tags folded that are
recorded in it, which gives the same SQL, or the same error with its tag folded.
-/

/-- A name in small letters. -/
def foldName (name : String) : String := String.ofList (name.toList.map Char.toLower)

/-- The name of an element in a statement, in small letters if that is the name
of a directive. -/
def foldTag (tag : String) : String :=
  if foldName tag ∈ Directive.all.map Directive.name then foldName tag else tag

/-- Attributes with their keys in small letters. -/
def foldKeys (attributes : List (String × String)) : List (String × String) :=
  attributes.map fun a => (foldName a.1, a.2)

mutual

/-- A tree in a statement, folded. -/
def foldInside : Content → Content
  | .text characters => .text characters
  | .element tag attributes children =>
      .element (foldTag tag) (foldKeys attributes) (foldInsideAll children)

/-- Trees in a statement, folded. -/
def foldInsideAll : List Content → List Content
  | [] => []
  | content :: rest => foldInside content :: foldInsideAll rest

end

mutual

/-- A tree outside of statements, folded. An element with an id is a statement,
whose own name stays as it is. -/
def foldOutside : Content → Content
  | .text characters => .text characters
  | .element name attributes children =>
      .element name (foldKeys attributes)
        (if "id" ∈ (foldKeys attributes).map (·.1) then foldInsideAll children
          else foldOutsideAll children)

/-- Trees outside of statements, folded. -/
def foldOutsideAll : List Content → List Content
  | [] => []
  | content :: rest => foldOutside content :: foldOutsideAll rest

end

/-- The fault of a choice, with the tag in it folded. -/
def foldFault : ChooseFault → ChooseFault
  | .unexpected tag => .unexpected (foldTag tag)
  | .strayText text => .strayText text
  | .secondOtherwise => .secondOtherwise
  | .noWhen => .noWhen
  | .noOtherwise => .noOtherwise

/-- An error of markup, with the tag of a directive in it folded. -/
def foldError : MarkupError → MarkupError
  | .missingAttribute tag name => .missingAttribute (foldTag tag) name
  | .invalidChoose fault => .invalidChoose (foldFault fault)
  | .malformed position cause => .malformed position cause
  | .unclosedTag tag => .unclosedTag tag

mutual

/-- A node with the tags folded that are recorded in it. -/
def Node.foldTags : Node → Node
  | .text characters => .text characters
  | .ifTest test children => .ifTest test (foldTagsAll children)
  | .choose whens otherwise => .choose (foldTagsBranches whens) (foldTagsAll otherwise)
  | .isNotNull property children => .isNotNull property (foldTagsAll children)
  | .inclusion refid => .inclusion refid
  | .whereBlock children => .whereBlock (foldTagsAll children)
  | .unsupported tag => .unsupported (foldTag tag)
  | .invalid tag error => .invalid (foldTag tag) (foldError error)

/-- Nodes with the tags folded that are recorded in them. -/
def foldTagsAll : List Node → List Node
  | [] => []
  | node :: rest => node.foldTags :: foldTagsAll rest

/-- Branches with the tags folded that are recorded in them. -/
def foldTagsBranches : List (Branch Node) → List (Branch Node)
  | [] => []
  | ⟨test, children⟩ :: rest => ⟨test, foldTagsAll children⟩ :: foldTagsBranches rest

end

/-- A statement with the tags folded that are recorded in its body. -/
def Statement.foldTags (s : Statement) : Statement := ⟨s.kind, s.id, foldTagsAll s.body⟩

/-- A document with the tags folded that are recorded in it. -/
def foldTags (d : SqlMapper.Document) : SqlMapper.Document :=
  ⟨d.statements.map Statement.foldTags⟩

/-! ### Names and attributes -/

theorem toLower_toLower (c : Char) : c.toLower.toLower = c.toLower := by
  delta Char.toLower
  grind

/-- A name has the same small letters when it is folded. -/
theorem map_toLower_foldName (name : String) :
    (foldName name).toList.map Char.toLower = name.toList.map Char.toLower := by
  have twice : Char.toLower ∘ Char.toLower = Char.toLower := funext toLower_toLower
  rw [foldName, String.toList_ofList, List.map_map, twice]

/-- A tag stands for the same directive when it is folded. -/
theorem ofName?_foldTag (tag : String) :
    Directive.ofName? (foldTag tag) = Directive.ofName? tag := by
  unfold foldTag
  split
  · simp only [Directive.ofName?, sameLetters, map_toLower_foldName]
  · rfl

/-- An attribute is found under a folded key. -/
theorem attribute?_foldKeys (attributes : List (String × String)) (name : String) :
    attribute? (foldKeys attributes) name = attribute? attributes name := by
  simp only [attribute?, foldKeys, List.find?_map, Function.comp_def, sameLetters,
    map_toLower_foldName, Option.map_map]

/-- An attribute is missing if no key is its name in small letters. -/
theorem attribute?_id_eq_none_iff {attributes : List (String × String)} :
    attribute? attributes "id" = none ↔ "id" ∉ (foldKeys attributes).map (·.1) := by
  have small : "id".toList.map Char.toLower = "id".toList := by decide
  have letters (key : String) : sameLetters key "id" = false ↔ ¬ foldName key = "id" := by
    have spelled : (foldName key).toList = key.toList.map Char.toLower := String.toList_ofList
    rw [sameLetters, small, beq_eq_false_iff_ne, ← spelled, ne_eq, String.toList_inj]
  simp only [attribute?_eq_none_iff, letters, foldKeys, List.map_map, List.mem_map,
    Function.comp_apply, not_exists, not_and]

/-! ### Building -/

theorem requiredAttribute_fold (tag : String) (attributes : List (String × String))
    (name : String) :
    requiredAttribute (foldTag tag) (foldKeys attributes) name
      = (requiredAttribute tag attributes name).mapError foldError := by
  unfold requiredAttribute
  rw [attribute?_foldKeys]
  cases attribute? attributes name <;> rfl

theorem nodeOrInvalid_foldTag (tag : String) (built : Except MarkupError Node) :
    nodeOrInvalid (foldTag tag) ((built.map Node.foldTags).mapError foldError)
      = (nodeOrInvalid tag built).foldTags := by
  cases built with
  | ok node => rfl
  | error e => simp only [Except.map, Except.mapError, nodeOrInvalid, Node.foldTags]

/-- A directive that needs an attribute is folded if what it is built as is folded. -/
theorem nodeOrInvalid_requiredAttribute (tag : String) (attributes : List (String × String))
    (name : String) {node folded : String → Node}
    (same : ∀ value, folded value = (node value).foldTags) :
    nodeOrInvalid (foldTag tag)
        ((requiredAttribute (foldTag tag) (foldKeys attributes) name).map folded)
      = (nodeOrInvalid tag ((requiredAttribute tag attributes name).map node)).foldTags := by
  rw [← nodeOrInvalid_foldTag, requiredAttribute_fold]
  cases requiredAttribute tag attributes name with
  | error e => rfl
  | ok value => simp only [Except.map, Except.mapError, same]

/-- The branches and the last resort of a choice with the tags folded. -/
def foldParts (parts : List (Branch Node) × Option (List Node)) :
    List (Branch Node) × Option (List Node) :=
  (foldTagsBranches parts.1, parts.2.map foldTagsAll)

theorem chooseNode_foldParts (parts : List (Branch Node) × Option (List Node)) :
    chooseNode (foldParts parts) = ((chooseNode parts).map Node.foldTags).mapError foldError := by
  obtain ⟨_ | ⟨⟨test, children⟩, whens⟩, _ | otherwise⟩ := parts
  all_goals
    simp only [foldParts, foldTagsBranches, chooseNode, Option.map, Except.map, Except.mapError,
      foldError, foldFault, Node.foldTags]

mutual

/-- A folded tree is built as the node with its tags folded. -/
theorem buildNode_foldInside : ∀ content : Content,
    buildNode (foldInside content) = (buildNode content).foldTags
  | .text characters => by simp only [foldInside, buildNode, Node.foldTags]
  | .element tag attributes children => by
      have inside := buildNodes_foldInsideAll children
      rw [foldInside, buildNode, buildNode, ofName?_foldTag]
      cases Directive.ofName? tag with
      | none => simp only [Node.foldTags]
      | some d =>
        cases d with
        | ifTest =>
          apply nodeOrInvalid_requiredAttribute
          intro test
          rw [Node.foldTags, inside]
        | choose =>
          have parts := buildBranches_foldInsideAll none children
          rw [Option.map_none] at parts
          simp only
          rw [← nodeOrInvalid_foldTag, parts]
          cases buildBranches none children with
          | error e => rfl
          | ok parts => exact congrArg (nodeOrInvalid _) (chooseNode_foldParts parts)
        | isNotNull =>
          apply nodeOrInvalid_requiredAttribute
          intro property
          rw [Node.foldTags, inside]
        | inclusion =>
          apply nodeOrInvalid_requiredAttribute
          intro refid
          rw [Node.foldTags]
        | whereBlock => simp only [Node.foldTags, inside]
        | when | otherwise => simp only [Node.foldTags]
termination_by structural content => content

/-- Folded trees are built as the nodes with their tags folded. -/
theorem buildNodes_foldInsideAll : ∀ contents : List Content,
    buildNodes (foldInsideAll contents) = foldTagsAll (buildNodes contents)
  | [] => by simp only [foldInsideAll, buildNodes, foldTagsAll]
  | content :: rest => by
      simp only [foldInsideAll, buildNodes, foldTagsAll]
      rw [buildNode_foldInside content, buildNodes_foldInsideAll rest]
termination_by structural contents => contents

/-- The parts of a choice of folded trees are those of the trees with their tags
folded, and so is the fault. -/
theorem buildBranches_foldInsideAll (otherwise : Option (List Node)) : ∀ contents : List Content,
    buildBranches (otherwise.map foldTagsAll) (foldInsideAll contents)
      = ((buildBranches otherwise contents).map foldParts).mapError foldError
  | [] => by
      simp only [foldInsideAll, buildBranches, Except.map, Except.mapError, foldParts,
        foldTagsBranches]
  | .text characters :: rest => by
      have later := buildBranches_foldInsideAll otherwise rest
      simp only [foldInsideAll, foldInside, buildBranches]
      split
      · exact later
      · rfl
  | .element tag attributes children :: rest => by
      have inside := buildNodes_foldInsideAll children
      simp only [foldInsideAll, foldInside, buildBranches]
      rw [ofName?_foldTag]
      cases Directive.ofName? tag with
      | none => rfl
      | some d =>
        cases d with
        | when =>
          have later := buildBranches_foldInsideAll otherwise rest
          simp only
          rw [requiredAttribute_fold, inside]
          cases requiredAttribute tag attributes "test" with
          | error e => rfl
          | ok test =>
            simp only [Except.mapError]
            rw [later]
            cases buildBranches otherwise rest with
            | error e => rfl
            | ok parts =>
              simp only [Except.map, Except.mapError, foldParts, foldTagsBranches]
        | otherwise =>
          have later := buildBranches_foldInsideAll (some (buildNodes children)) rest
          simp only [Option.isSome_map]
          split
          · rfl
          · rw [inside]
            exact later
        | ifTest | choose | isNotNull | inclusion | whereBlock => rfl
termination_by structural contents => contents

end

/-! ### Documents -/

mutual

theorem statementsOf_foldOutside : ∀ content : Content,
    statementsOf (foldOutside content) = (statementsOf content).map Statement.foldTags
  | .text characters => by simp only [foldOutside, statementsOf, List.map_nil]
  | .element name attributes children => by
      rw [foldOutside, statementsOf, statementsOf, attribute?_foldKeys]
      cases declared : attribute? attributes "id" with
      | none =>
        rw [if_neg (attribute?_id_eq_none_iff.mp declared)]
        exact statementsOfAll_foldOutsideAll children
      | some id =>
        have keyed : "id" ∈ (foldKeys attributes).map (·.1) := by
          by_contra missing
          rw [attribute?_id_eq_none_iff.mpr missing] at declared
          cases declared
        rw [if_pos keyed]
        simp only [List.map_cons, List.map_nil, Statement.foldTags, buildNodes_foldInsideAll]
termination_by structural content => content

/-- The statements of folded trees are those of the trees with their tags folded. -/
theorem statementsOfAll_foldOutsideAll : ∀ contents : List Content,
    statementsOfAll (foldOutsideAll contents)
      = (statementsOfAll contents).map Statement.foldTags
  | [] => by simp only [foldOutsideAll, statementsOfAll, List.map_nil]
  | content :: rest => by
      simp only [foldOutsideAll, statementsOfAll, List.map_append]
      rw [statementsOf_foldOutside content, statementsOfAll_foldOutsideAll rest]
termination_by structural contents => contents

end

/-- What is kept of statements depends on their ids only. -/
theorem firstOfEachId_map {f : Statement → Statement} (keeps : ∀ s, (f s).id = s.id)
    (statements : List Statement) :
    firstOfEachId (statements.map f) = (firstOfEachId statements).map f := by
  induction statements using List.reverseRecOn with
  | nil => rfl
  | append_singleton rest s ih =>
    have ids (kept : List Statement) : (kept.map f).map (·.id) = kept.map (·.id) := by
      simp only [List.map_map, Function.comp_def, keeps]
    rw [List.map_append, List.map_singleton, firstOfEachId_concat, firstOfEachId_concat, ih, ids,
      keeps, List.map_append]
    split <;> rfl

/-- The document of folded trees is that of the trees with its tags folded. -/
theorem ofContents_foldOutsideAll (contents : List Content) :
    ofContents (foldOutsideAll contents) = foldTags (ofContents contents) := by
  have keeps (s : Statement) : s.foldTags.id = s.id := rfl
  rw [ofContents, statementsOfAll_foldOutsideAll, firstOfEachId_map keeps]
  rfl

end SqlMapper.Document

namespace SqlMapper.Query

open SqlMapper.Condition SqlMapper.Document SqlMapper.Markup SqlMapper.Parameter SqlMapper.Text

/-! ### Rendering -/

/-- The error of a query, with the tag of a directive in it folded. -/
def foldQueryError : QueryError → QueryError
  | .unsupportedTag tag => .unsupportedTag (foldTag tag)
  | .markup error => .markup (foldError error)
  | error => error

/-- An action with the tags folded that are recorded in it. -/
def Action.foldTags : Action → Action
  | .write text => .write text
  | .enter nodes => .enter (foldTagsAll nodes)
  | .block nodes => .block (foldTagsAll nodes)
  | .inclusion refid => .inclusion refid
  | .refuse error => .refuse (foldQueryError error)

theorem choiceAction_foldTags (bag : Bag) (otherwise : List Node) (whens : List (Branch Node)) :
    choiceAction bag (foldTagsAll otherwise) (foldTagsBranches whens)
      = (choiceAction bag otherwise whens).foldTags := by
  induction whens with
  | nil => rfl
  | cons branch rest ih =>
    obtain ⟨test, children⟩ := branch
    simp only [foldTagsBranches, choiceAction]
    cases Condition.test test bag with
    | error e => rfl
    | ok holds =>
      cases holds with
      | true => rfl
      | false => exact ih

/-- A bag makes the same of a node when its tags are folded. -/
theorem action_foldTags (bag : Bag) (node : Node) :
    action bag node.foldTags = (action bag node).foldTags := by
  cases node with
  | text characters => rfl
  | ifTest test children =>
    simp only [Node.foldTags, action]
    cases Condition.test test bag with
    | error e => rfl
    | ok holds => cases holds <;> rfl
  | choose whens otherwise => exact choiceAction_foldTags bag otherwise whens
  | isNotNull property children =>
    simp only [Node.foldTags, action]
    cases bag property with
    | none => rfl
    | some value =>
      simp only
      split <;> rfl
  | inclusion refid => rfl
  | whereBlock children => rfl
  | unsupported tag => rfl
  | invalid tag error => rfl

section

variable {bag : Bag} {included folded : String → Except QueryError (List Char)}

theorem perform_foldTags
    (inclusions : ∀ refid, folded refid = (included refid).mapError foldQueryError) (a : Action)
    (inside : renderNodes bag folded (foldTagsAll a.nodes)
      = (renderNodes bag included a.nodes).mapError foldQueryError) :
    a.foldTags.perform bag folded = (a.perform bag included).mapError foldQueryError := by
  cases a with
  | write text => rfl
  | enter nodes => exact inside
  | block nodes =>
    simp only [Action.nodes] at inside
    simp only [Action.foldTags, Action.perform, inside]
    cases renderNodes bag included nodes <;> rfl
  | inclusion refid => exact inclusions refid
  | refuse error => rfl

/-- Nodes give the same text when their tags are folded, or the same error with
its tag folded, if what they include does. -/
theorem renderNodes_foldTagsAll
    (inclusions : ∀ refid, folded refid = (included refid).mapError foldQueryError)
    (nodes : List Node) :
    renderNodes bag folded (foldTagsAll nodes)
      = (renderNodes bag included nodes).mapError foldQueryError := by
  induction nodes using nodes_induction bag with
  | nil => simp only [foldTagsAll, renderNodes, Except.mapError]
  | cons node rest ihAction ihRest =>
    simp only [foldTagsAll, renderNodes]
    rw [renderNode_eq_perform, renderNode_eq_perform, action_foldTags,
      perform_foldTags inclusions _ ihAction, ihRest]
    cases (action bag node).perform bag included with
    | error e => rfl
    | ok text => cases renderNodes bag included rest <;> rfl

end

theorem statement?_foldTags (d : SqlMapper.Document) (id : String) :
    (foldTags d).statement? id = (d.statement? id).map Statement.foldTags := by
  simp only [Document.statement?, foldTags, List.find?_map]
  rfl

/-- A body is rendered to the same when the tags in it and in its document are folded. -/
theorem renderBody_foldTags (d : SqlMapper.Document) (file : String) (bag : Bag)
    (chain : List String) (body : List Node) :
    renderBody (foldTags d) file bag chain (foldTagsAll body)
      = (renderBody d file bag chain body).mapError foldQueryError := by
  -- An included statement is rendered on a longer chain, and its body is folded as well.
  induction chain, body using renderBody.induct d file bag with
  | case1 chain body ih =>
    have inclusions : ∀ refid, inclusionText (foldTags d) file bag chain refid
        = (inclusionText d file bag chain refid).mapError foldQueryError := by
      intro refid
      by_cases on : refid ∈ chain
      · rw [inclusionText_of_mem on, inclusionText_of_mem on]
        rfl
      · cases found : d.statement? refid with
        | none =>
          rw [inclusionText_of_undefined on found, inclusionText_of_undefined on]
          · rfl
          · rw [statement?_foldTags, found, Option.map_none]
        | some s =>
          have foldedFound : (foldTags d).statement? refid = some s.foldTags := by
            rw [statement?_foldTags, found, Option.map_some]
          rw [inclusionText_of_found on found, inclusionText_of_found on foldedFound]
          exact ih refid on s found
    rw [renderBody_eq, renderBody_eq, renderNodes_foldTagsAll inclusions]
    cases renderNodes bag (inclusionText d file bag chain) body <;> rfl

/-- A statement is rendered to the same when the tags in its document are folded. -/
theorem renderStatement_foldTags (d : SqlMapper.Document) (file : String) (bag : Bag)
    (s : Statement) :
    renderStatement (foldTags d) file bag s.foldTags
      = (renderStatement d file bag s).mapError foldQueryError := by
  unfold renderStatement
  simp only [Statement.foldTags, renderBody_foldTags]
  cases renderBody d file bag [s.id] s.body <;> rfl

theorem mapError_eq_ok_iff {ε ε' α : Type} {f : ε → ε'} {x : Except ε α} {a : α} :
    x.mapError f = .ok a ↔ x = .ok a := by
  cases x <;> simp [Except.mapError]

/-- Trees that differ in the case of letters only, in the names of directives
inside statements and in the keys of attributes, are built as documents that
differ in recorded tags only, and these give the same SQL for every bag. -/
theorem letter_case_immaterial {contents contents' : List Content}
    (same : foldOutsideAll contents = foldOutsideAll contents') :
    List.Forall₂
      (fun s s' => s.kind = s'.kind ∧ s.id = s'.id ∧ foldTagsAll s.body = foldTagsAll s'.body
        ∧ ∀ file bag,
          (renderStatement (ofContents contents) file bag s).mapError foldQueryError
              = (renderStatement (ofContents contents') file bag s').mapError foldQueryError
            ∧ ∀ sql, renderStatement (ofContents contents) file bag s = .ok sql
              ↔ renderStatement (ofContents contents') file bag s' = .ok sql)
      (ofContents contents).statements (ofContents contents').statements := by
  have documents : foldTags (ofContents contents) = foldTags (ofContents contents') := by
    rw [← ofContents_foldOutsideAll, ← ofContents_foldOutsideAll, same]
  have pairs : List.Forall₂ (· = ·) ((ofContents contents).statements.map Statement.foldTags)
      ((ofContents contents').statements.map Statement.foldTags) := by
    rw [List.forall₂_eq_eq_eq]
    exact congrArg Document.statements documents
  rw [List.forall₂_map_left_iff, List.forall₂_map_right_iff] at pairs
  refine pairs.imp ?_
  intro s s' folded
  have results (file : String) (bag : Bag) :
      (renderStatement (ofContents contents) file bag s).mapError foldQueryError
        = (renderStatement (ofContents contents') file bag s').mapError foldQueryError := by
    rw [← renderStatement_foldTags, ← renderStatement_foldTags, folded, documents]
  obtain ⟨kinds, ids, bodies⟩ := Statement.mk.inj folded
  refine ⟨kinds, ids, bodies, fun file bag => ⟨results file bag, fun sql => ?_⟩⟩
  rw [← mapError_eq_ok_iff (f := foldQueryError), results, mapError_eq_ok_iff]

private def capitals : List Content :=
  [.element "Select" [("ID", "all"), ("id", "none")]
      [.element "IF" [("TEST", "@n == 1")] [.text "AND n"], .element "When" [] []],
    .element "sql" [("Id", "bad")] [.element "CHOOSE" [] [.element "IF" [] []]]]

private def smallLetters : List Content :=
  [.element "Select" [("id", "all"), ("ID", "none")]
      [.element "if" [("test", "@n == 1")] [.text "AND n"], .element "when" [] []],
    .element "sql" [("id", "bad")] [.element "choose" [] [.element "if" [] []]]]

/-- Capitals where they may stand, and tags that are recorded in an element
without a meaning and in the fault of a choice. -/
theorem letter_case_immaterial_capitals :
    foldOutsideAll capitals = foldOutsideAll smallLetters
      ∧ (ofContents capitals).unsupportedTags = [⟨"all", "When"⟩]
      ∧ (ofContents smallLetters).unsupportedTags = [⟨"all", "when"⟩]
      ∧ List.Forall₂
        (fun s s' => foldTagsAll s.body = foldTagsAll s'.body
          ∧ ∀ file bag sql, renderStatement (ofContents capitals) file bag s = .ok sql
            ↔ renderStatement (ofContents smallLetters) file bag s' = .ok sql)
        (ofContents capitals).statements (ofContents smallLetters).statements := by
  have tags : foldTag "IF" = foldTag "if" ∧ foldTag "When" = foldTag "when"
      ∧ foldTag "CHOOSE" = foldTag "choose" := by decide
  have keys : foldName "ID" = "id" ∧ foldName "Id" = "id" ∧ foldName "id" = "id"
      ∧ foldName "TEST" = foldName "test" := by decide
  have same : foldOutsideAll capitals = foldOutsideAll smallLetters := by
    simp only [capitals, smallLetters, foldOutsideAll, foldOutside, foldInsideAll, foldInside,
      foldKeys, List.map_cons, List.map_nil, tags, keys, List.mem_cons_self, if_true]
  refine ⟨same, by rfl, by rfl, (letter_case_immaterial same).imp ?_⟩
  intro s s' alike
  obtain ⟨_, _, bodies, rendered⟩ := alike
  exact ⟨bodies, fun file bag => (rendered file bag).2⟩

end SqlMapper.Query
