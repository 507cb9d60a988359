/-
Module: SqlMapper.Proofs.ParsedDocuments
Purpose: Every parsed document is in normal form.
Main exports: Yields, ofName?_of_sameLetters, isNormal_buildNode, isNormalBody_buildNodes,
  yields_buildBranches, parsed_in_normal_form
-/
import SqlMapper.Document.NormalForm
import SqlMapper.Proofs.Action
import SqlMapper.Proofs.MergedText
import SqlMapper.Proofs.PrintedDocuments
import SqlMapper.Proofs.StatementIds

namespace SqlMapper.Document

open SqlMapper.Markup SqlMapper.Text

/-!
The reader gives merged trees, and building keeps what is merged: a text becomes
a text and nothing else does, and the trees in a directive become the nodes in
it. What a directive lacks makes it invalid, so that every fault found while
building is one of a directive.
-/

/-! ### Names of directives -/

/-- A name in any case of its letters stands for the directive that has it. -/
theorem ofName?_of_sameLetters {d : Directive} {tag : String}
    (h : sameLetters d.name tag = true) : Directive.ofName? tag = some d := by
  have letters : d.name.toList.map Char.toLower = tag.toList.map Char.toLower := by
    simpa [sameLetters] using h
  have same : Directive.ofName? tag = Directive.ofName? d.name := by
    simp only [Directive.ofName?, sameLetters, letters]
  rw [same, ofName?_name]

/-- Only the directives that have a meaning anywhere count as names of directives. -/
theorem namesDirective_eq_false {tag : String}
    (h : ∀ d ∈ Directive.freestanding, Directive.ofName? tag ≠ some d) :
    namesDirective tag = false := by
  rw [namesDirective, List.any_eq_false]
  intro d member same
  exact h d member (ofName?_of_sameLetters same)

/-! ### Building -/

/-- A result that is good, or a fault of a directive. -/
def Yields {α : Type} (good : α → Prop) : Except MarkupError α → Prop
  | .ok a => good a
  | .error e => isDirectiveFault e = true

namespace Yields

variable {α β : Type} {good : α → Prop} {better : β → Prop} {x : Except MarkupError α}

theorem map (h : Yields good x) {f : α → β} (step : ∀ a, good a → better (f a)) :
    Yields better (x.map f) := by
  cases x with
  | error e => exact h
  | ok a => exact step a h

theorem bind (h : Yields good x) {f : α → Except MarkupError β}
    (step : ∀ a, good a → Yields better (f a)) : Yields better (x >>= f) := by
  cases x with
  | error e => exact h
  | ok a => exact step a h

end Yields

theorem yields_requiredAttribute (tag : String) (attributes : List (String × String))
    (name : String) : Yields (fun _ => True) (requiredAttribute tag attributes name) := by
  unfold requiredAttribute
  cases attribute? attributes name with
  | none => rfl
  | some value => trivial

/-- A node in normal form that an element is built as. -/
structure IsNormalElement (node : Node) : Prop where
  normal : node.isNormal = true
  notText : ∀ rest, startsWithText (node :: rest) = false

theorem Yields.nodeOrInvalid {built : Except MarkupError Node} (h : Yields IsNormalElement built)
    (tag : String) : IsNormalElement (nodeOrInvalid tag built) := by
  cases built with
  | ok node => exact h
  | error e => exact ⟨h, fun _ => rfl⟩

/-- The branches of a choice and its last resort, if there is one, are in normal form. -/
structure AreNormalParts (parts : List (Branch Node) × Option (List Node)) : Prop where
  whens : areNormalBranches parts.1 = true
  otherwise : ∀ nodes ∈ parts.2, isNormalBody nodes = true

theorem yields_chooseNode {parts : List (Branch Node) × Option (List Node)}
    (h : AreNormalParts parts) : Yields IsNormalElement (chooseNode parts) := by
  obtain ⟨whens, otherwise⟩ := h
  obtain ⟨_ | ⟨first, rest⟩, _ | last⟩ := parts
  · rfl
  · rfl
  · rfl
  · have inside := otherwise last rfl
    refine ⟨?_, fun _ => rfl⟩
    simp only [Node.isNormal, List.isEmpty_cons, Bool.not_false, whens, inside, Bool.and_self]

mutual

/-- What an element is built as is in normal form if the trees in it are merged. -/
theorem isNormalElement_buildNode (tag : String) (attributes : List (String × String)) :
    ∀ {children : List Content}, areMerged children = true →
      IsNormalElement (buildNode (.element tag attributes children))
  | children, merged => by
      have inside := (isNormalBody_buildNodes merged).1
      have required := yields_requiredAttribute tag attributes
      rw [buildNode]
      cases named : Directive.ofName? tag with
      | none => exact ⟨by simp [Node.isNormal, namesDirective_eq_false, named], fun _ => rfl⟩
      | some d =>
        cases d with
        | ifTest =>
          refine Yields.nodeOrInvalid ?_ tag
          exact (required "test").map fun _ _ => ⟨inside, fun _ => rfl⟩
        | choose =>
          have none : ∀ nodes ∈ (none : Option (List Node)), isNormalBody nodes = true := by simp
          have parts := yields_buildBranches merged none
          exact (parts.bind fun parts => yields_chooseNode).nodeOrInvalid tag
        | isNotNull =>
          refine Yields.nodeOrInvalid ?_ tag
          exact (required "property").map fun _ _ => ⟨inside, fun _ => rfl⟩
        | inclusion =>
          refine Yields.nodeOrInvalid ?_ tag
          exact (required "refid").map fun _ _ => ⟨rfl, fun _ => rfl⟩
        | whereBlock => exact ⟨inside, fun _ => rfl⟩
        | when | otherwise =>
          have unnamed : namesDirective tag = false :=
            namesDirective_eq_false (by rw [named]; decide)
          exact ⟨by simp [Node.isNormal, unnamed], fun _ => rfl⟩

/-- What is built of merged trees is in normal form, and starts with a text if they do. -/
theorem isNormalBody_buildNodes : ∀ {contents : List Content}, areMerged contents = true →
    isNormalBody (buildNodes contents) = true
      ∧ startsWithText (buildNodes contents) = headIsText contents
  | [], _ => ⟨rfl, rfl⟩
  | .text characters :: rest, merged => by
      simp only [areMerged, isMerged, Content.isText, Bool.and_eq_true] at merged
      obtain ⟨⟨nonempty, restMerged⟩, apart⟩ := merged
      obtain ⟨others, start⟩ := isNormalBody_buildNodes restMerged
      rw [buildNodes, buildNode, isNormalBody, Node.isNormal, nonempty, others, start]
      exact ⟨apart, rfl⟩
  | .element tag attributes children :: rest, merged => by
      simp only [areMerged, isMerged, Bool.and_eq_true] at merged
      obtain ⟨⟨inside, restMerged⟩, _⟩ := merged
      obtain ⟨others, _⟩ := isNormalBody_buildNodes restMerged
      obtain ⟨normal, notText⟩ := isNormalElement_buildNode tag attributes inside
      rw [buildNodes, isNormalBody, normal, others, notText, notText]
      exact ⟨rfl, rfl⟩

/-- The branches of a choice are in normal form, or one of them is at fault. -/
theorem yields_buildBranches : ∀ {contents : List Content} {otherwise : Option (List Node)},
    areMerged contents = true → (∀ nodes ∈ otherwise, isNormalBody nodes = true) →
    Yields AreNormalParts (buildBranches otherwise contents)
  | [], otherwise, _, last => by
      rw [buildBranches]
      exact ⟨rfl, last⟩
  | .text characters :: rest, otherwise, merged, last => by
      simp only [areMerged, Bool.and_eq_true] at merged
      simp only [buildBranches]
      split
      · exact yields_buildBranches merged.1.2 last
      · rfl
  | .element tag attributes children :: rest, otherwise, merged, last => by
      simp only [areMerged, isMerged, Bool.and_eq_true] at merged
      have inside := (isNormalBody_buildNodes merged.1.1).1
      rw [buildBranches]
      split
      · unfold requiredAttribute
        cases attribute? attributes "test" with
        | none => rfl
        | some test =>
          refine (yields_buildBranches merged.1.2 last).map fun parts normal => ?_
          refine ⟨?_, normal.otherwise⟩
          rw [areNormalBranches, inside, normal.whens]
          rfl
      · split
        · rfl
        · refine yields_buildBranches merged.1.2 fun nodes member => ?_
          cases member
          exact inside
      · rfl

end

/-! ### Documents -/

mutual

theorem isNormalBody_of_mem_statementsOf : ∀ {content : Content}, isMerged content = true →
    ∀ s ∈ statementsOf content, isNormalBody s.body = true
  | .text characters, _, s, member => by
      rw [statementsOf] at member
      exact nomatch member
  | .element tag attributes children, merged, s, member => by
      rw [isMerged] at merged
      rw [statementsOf] at member
      split at member
      · obtain rfl := List.mem_singleton.mp member
        exact (isNormalBody_buildNodes merged).1
      · exact isNormalBody_of_mem_statementsOfAll merged s member

/-- The statements of merged trees have bodies in normal form. -/
theorem isNormalBody_of_mem_statementsOfAll : ∀ {contents : List Content},
    areMerged contents = true → ∀ s ∈ statementsOfAll contents, isNormalBody s.body = true
  | [], _, s, member => by
      rw [statementsOfAll] at member
      exact nomatch member
  | content :: rest, merged, s, member => by
      simp only [areMerged, Bool.and_eq_true] at merged
      rw [statementsOfAll, List.mem_append] at member
      rcases member with first | later
      · exact isNormalBody_of_mem_statementsOf merged.1.1 s first
      · exact isNormalBody_of_mem_statementsOfAll merged.1.2 s later

end

/-- In every parsed document no two statements claim one id, so that an id finds
the only statement that has it, and every body is in normal form. -/
theorem parsed_in_normal_form {text : String} {d : SqlMapper.Document}
    (parsed : parse text = .ok d) :
    d.ids.Nodup
      ∧ (∀ id s, d.statement? id = some s ↔ s ∈ d.statements ∧ s.id = id)
      ∧ ∀ s ∈ d.statements, isNormalBody s.body = true := by
  obtain ⟨contents, read, rfl⟩ := map_eq_ok_iff.mp parsed
  have distinct : (ofContents contents).ids.Nodup := nodup_ids_firstOfEachId _
  have merged := areMerged_readMarkup read
  refine ⟨distinct, fun id s => statement?_eq_some_iff distinct, fun s member => ?_⟩
  exact isNormalBody_of_mem_statementsOfAll merged s (mem_of_mem_firstOfEachId member)

private def interruptedText : String :=
  "<m><sql id='a'>x<!---->y<?p?>&lt;<![CDATA[z]]><When/><choose><IF/></choose></sql><b ID='a'/></m>"

private def mergedDocument : SqlMapper.Document :=
  ⟨[⟨"sql", "a", [.text "xy<z", .unsupported "When",
    .invalid "choose" (.invalidChoose (.unexpected "IF"))]⟩]⟩

/-- A text that is interrupted in every way is one text, and of two statements
that claim an id the first is kept. -/
theorem parsed_in_normal_form_interrupted :
    parse interruptedText = .ok mergedDocument
      ∧ mergedDocument.ids.Nodup
      ∧ ∀ s ∈ mergedDocument.statements, isNormalBody s.body = true := by
  have read : readMarkup interruptedText = .ok
      [.element "m" [] [.element "sql" [("id", "a")] [.text "xy<z", .element "When" [] [],
        .element "choose" [] [.element "IF" [] []]], .element "b" [("ID", "a")] []]] := by rfl
  have parsed : parse interruptedText = .ok mergedDocument := by
    rw [parse, read]
    rfl
  obtain ⟨distinct, _, normal⟩ := parsed_in_normal_form parsed
  exact ⟨parsed, distinct, normal⟩

end SqlMapper.Document
