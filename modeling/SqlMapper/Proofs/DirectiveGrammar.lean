/-
Module: SqlMapper.Proofs.DirectiveGrammar
Purpose: What is built of an element, as a grammar of the directives and of their faults.
Main exports: IsGrammatical, HasFault, Means, means_buildNode, buildNode_eq_invalid_iff,
  built_by_grammar
-/
import SqlMapper.Proofs.ChoiceGrammar

namespace SqlMapper.Document

open SqlMapper.Markup SqlMapper.Text

/-!
A directive is built or it is invalid, and which of both is a question of its
attributes and, for a choice, of the elements and texts directly in it. What
these hold in turn does not matter: a fault stays in the directive that has it,
and the directives around it are built as if it were not there.
-/

/-! ### The grammar -/

/-- The attribute that a directive has to have. -/
def Directive.required? : Directive → Option String
  | .ifTest | .when => some "test"
  | .isNotNull => some "property"
  | .inclusion => some "refid"
  | .choose | .otherwise | .whereBlock => none

/-- A directive with attributes and children has all that it needs. -/
structure IsGrammatical (d : Directive) (attributes : List (String × String))
    (children : List Content) : Prop where
  required : ∀ name ∈ d.required?, ∃ a ∈ attributes, sameLetters a.1 name = true
  choice : d = .choose → IsChoice children

/-- What is wrong with a directive that does not have all that it needs. -/
inductive HasFault (d : Directive) (tag : String) (attributes : List (String × String))
    (children : List Content) : MarkupError → Prop where
  | missing {name : String} (required : d.required? = some name)
      (lacks : ∀ a ∈ attributes, sameLetters a.1 name = false) :
      HasFault d tag attributes children (.missingAttribute tag name)
  | choice {e : MarkupError} (isChoose : d = .choose) (fault : ChoiceFault children e) :
      HasFault d tag attributes children e

/-- What a directive with attributes and children means. -/
inductive Means (attributes : List (String × String)) (children : List Content) :
    Directive → Node → Prop where
  | ifTest {test : String} (has : attribute? attributes "test" = some test) :
      Means attributes children .ifTest (.ifTest test (children.map buildNode))
  | choose {otherwise : List Node} (single : children.filterMap lastResort? = [otherwise]) :
      Means attributes children .choose (.choose (children.filterMap branch?) otherwise)
  | isNotNull {property : String} (has : attribute? attributes "property" = some property) :
      Means attributes children .isNotNull (.isNotNull property (children.map buildNode))
  | inclusion {refid : String} (has : attribute? attributes "refid" = some refid) :
      Means attributes children .inclusion (.inclusion refid)
  | whereBlock : Means attributes children .whereBlock (.whereBlock (children.map buildNode))

/-! ### Directives -/

section

variable {d : Directive} {tag : String} {attributes : List (String × String)}
  {children : List Content} {e : MarkupError}

/-- A directive with a fault is built as invalid. -/
theorem buildNode_of_fault (named : sameLetters d.name tag = true)
    (freestanding : d ∈ Directive.freestanding) (fault : HasFault d tag attributes children e) :
    buildNode (.element tag attributes children) = .invalid tag e := by
  rw [buildNode, ofName?_of_sameLetters named]
  cases fault with
  | missing required lacks =>
    have refused := requiredAttribute_of_lacks tag lacks
    cases d with
    | ifTest | isNotNull | inclusion =>
      cases required
      simp only [refused]
      rfl
    | when => exact absurd freestanding (by decide)
    | choose | otherwise | whereBlock => cases required
  | choice isChoose fault =>
    subst isChoose
    simp only [choice_of_fault fault]
    rfl

/-- A directive that has all that it needs is built as what it means. -/
theorem means_buildNode (named : sameLetters d.name tag = true)
    (freestanding : d ∈ Directive.freestanding) (sound : IsGrammatical d attributes children) :
    Means attributes children d (buildNode (.element tag attributes children)) := by
  have value : ∀ name ∈ d.required?, ∃ value, attribute? attributes name = some value := by
    intro name required
    obtain ⟨a, member, has⟩ := sound.required name required
    rw [← Option.ne_none_iff_exists', ne_eq, attribute?_eq_none_iff]
    intro lacks
    rw [lacks a member] at has
    cases has
  rw [buildNode, ofName?_of_sameLetters named]
  cases d with
  | ifTest =>
    obtain ⟨test, has⟩ := value "test" rfl
    simp only [requiredAttribute_of_has tag has, buildNodes_eq_map]
    exact .ifTest has
  | choose =>
    obtain ⟨otherwise, single, built⟩ := choice_of_isChoice (sound.choice rfl)
    simp only [built]
    exact .choose single
  | isNotNull =>
    obtain ⟨property, has⟩ := value "property" rfl
    simp only [requiredAttribute_of_has tag has, buildNodes_eq_map]
    exact .isNotNull has
  | inclusion =>
    obtain ⟨refid, has⟩ := value "refid" rfl
    simp only [requiredAttribute_of_has tag has]
    exact .inclusion has
  | whereBlock =>
    simp only [buildNodes_eq_map]
    exact .whereBlock
  | when | otherwise => exact absurd freestanding (by decide)

/-- A directive that lacks something has a fault. -/
theorem isGrammatical_iff (tag : String) :
    IsGrammatical d attributes children ↔ ∀ e, ¬ HasFault d tag attributes children e := by
  constructor
  · intro sound e fault
    cases fault with
    | missing required lacks =>
      obtain ⟨a, member, has⟩ := sound.required _ required
      rw [lacks a member] at has
      cases has
    | choice isChoose fault => exact isChoice_iff.mp (sound.choice isChoose) e fault
  · intro sound
    constructor
    · intro name required
      by_contra missing
      refine sound _ (.missing required fun a member => ?_)
      rw [← Bool.not_eq_true]
      exact fun has => missing ⟨a, member, has⟩
    · intro isChoose
      exact isChoice_iff.mpr fun e fault => sound e (.choice isChoose fault)

theorem Means.not_invalid {node : Node} (h : Means attributes children d node) (t : String)
    (e : MarkupError) : node ≠ .invalid t e := by
  cases h <;> exact nofun

/-- A directive is built as invalid exactly if it has a fault, and with that fault. -/
theorem buildNode_eq_invalid_iff (named : sameLetters d.name tag = true)
    (freestanding : d ∈ Directive.freestanding) {t : String} :
    buildNode (.element tag attributes children) = .invalid t e
      ↔ t = tag ∧ HasFault d tag attributes children e := by
  constructor
  · intro invalid
    obtain ⟨other, fault⟩ : ∃ other, HasFault d tag attributes children other := by
      by_contra sound
      rw [not_exists, ← isGrammatical_iff tag] at sound
      exact (means_buildNode named freestanding sound).not_invalid t e invalid
    rw [buildNode_of_fault named freestanding fault] at invalid
    cases invalid
    exact ⟨rfl, fault⟩
  · rintro ⟨rfl, fault⟩
    exact buildNode_of_fault named freestanding fault

end

/-- Building accepts the directive grammar and nothing else. Each tree is built
as one node, a text as itself. An element that is named after a directive, in
any case of letters, is what the directive means if it has all that it needs;
otherwise it is invalid, with what is wrong with it, a choice having the fault of
its first child at fault, or else lacking a branch, or else a last resort. Any
other element, a branch outside of a choice included, is an unsupported one. No
fault of a directive is one of the text: only what cannot be read cannot be parsed. -/
theorem built_by_grammar :
    (∀ contents, buildNodes contents = contents.map buildNode)
      ∧ (∀ characters, buildNode (.text characters) = .text characters)
      ∧ (∀ d ∈ Directive.freestanding, ∀ tag, sameLetters d.name tag = true →
        ∀ attributes children,
          ((∃ t e, buildNode (.element tag attributes children) = .invalid t e)
              ↔ ¬ IsGrammatical d attributes children)
            ∧ (∀ t e, buildNode (.element tag attributes children) = .invalid t e
              ↔ t = tag ∧ HasFault d tag attributes children e)
            ∧ (IsGrammatical d attributes children →
              Means attributes children d (buildNode (.element tag attributes children))))
      ∧ (∀ tag, (∀ d ∈ Directive.freestanding, sameLetters d.name tag = false) →
        ∀ attributes children,
          buildNode (.element tag attributes children) = .unsupported tag)
      ∧ ∀ text e, parse text = .error e ↔ readMarkup text = .error e := by
  refine ⟨buildNodes_eq_map, fun characters => by rw [buildNode], ?_, ?_, ?_⟩
  · intro d freestanding tag named attributes children
    have invalid : ∀ t e, buildNode (.element tag attributes children) = .invalid t e
        ↔ t = tag ∧ HasFault d tag attributes children e :=
      fun t e => buildNode_eq_invalid_iff named freestanding
    refine ⟨?_, invalid, means_buildNode named freestanding⟩
    rw [isGrammatical_iff tag, not_forall_not]
    constructor
    · rintro ⟨t, e, built⟩
      exact ⟨e, ((invalid t e).mp built).2⟩
    · rintro ⟨e, fault⟩
      exact ⟨tag, e, (invalid tag e).mpr ⟨rfl, fault⟩⟩
  · intro tag unnamed attributes children
    refine buildNode_of_not_namesDirective ?_ attributes children
    rw [namesDirective, List.any_eq_false]
    intro d member
    simp [unnamed d member]
  · intro text e
    exact map_eq_error_iff

private def testedBranch : Content := .element "When" [("TEST", "a == x")] [.element "if" [] []]

private def elseBranch : Content := .element "otherwise" [] []

private def branchesAndMore : List Content :=
  [.text " ", elseBranch, .element "OTHERWISE" [] [], .text "x", .element "when" [] []]

private theorem firstFault : ChoiceFault branchesAndMore (.invalidChoose .secondOtherwise) := by
  have blank : ∀ e, ¬ ChildFault [] (.text " ") e := by
    rintro e ⟨visible⟩
    revert visible
    decide
  have sole : ∀ e, ¬ ChildFault [.text " "] elseBranch e := by
    rintro e (_ | ⟨isWhen, -⟩ | ⟨-, earlier⟩ | ⟨-, other⟩)
    · revert isWhen
      decide
    · simp [isNamed] at earlier
    · revert other
      decide
  have front : Faultless [] [.text " ", elseBranch] :=
    faultless_cons_iff.mpr ⟨blank, faultless_cons_iff.mpr ⟨sole, faultless_nil _⟩⟩
  have whole : branchesAndMore = [.text " ", elseBranch]
      ++ .element "OTHERWISE" [] [] :: [.text "x", .element "when" [] []] := rfl
  exact .child whole front
    (.secondOtherwise (by decide) ⟨elseBranch, by simp, by decide⟩)

private theorem isChoice_elseFirst : IsChoice [elseBranch, .text "\n", testedBranch] := by
  refine ⟨?_, ?_, ⟨testedBranch, by simp, by decide⟩, by decide⟩
  · intro characters member
    simp only [elseBranch, testedBranch, List.mem_cons, reduceCtorEq, Content.text.injEq,
      List.not_mem_nil, or_false, false_or] at member
    rw [member]
    decide
  · intro tag attributes inner member
    simp only [elseBranch, testedBranch, List.mem_cons, reduceCtorEq, Content.element.injEq,
      List.not_mem_nil, or_false, false_or] at member
    rcases member with ⟨rfl, -⟩ | ⟨rfl, rfl, -⟩
    · exact .inr (by decide)
    · exact .inl (by decide)

/-- A choice with four faults, of which the second last resort is the first; and
one without, which has its last resort in front and an invalid directive in its branch. -/
theorem built_by_grammar_choice :
    sameLetters Directive.choose.name "CHOOSE" = true
      ∧ ChoiceFault branchesAndMore (.invalidChoose .secondOtherwise)
      ∧ buildNode (.element "CHOOSE" [] branchesAndMore)
        = .invalid "CHOOSE" (.invalidChoose .secondOtherwise)
      ∧ IsChoice [elseBranch, .text "\n", testedBranch]
      ∧ buildNode (.element "CHOOSE" [] [elseBranch, .text "\n", testedBranch])
        = .choose [⟨"a == x", [.invalid "if" (.missingAttribute "if" "test")]⟩] [] := by
  have named : sameLetters Directive.choose.name "CHOOSE" = true := by decide
  have built := built_by_grammar.2.2.1 .choose (by decide) "CHOOSE" named []
  refine ⟨named, firstFault, ?_, isChoice_elseFirst, ?_⟩
  · exact ((built branchesAndMore).2.1 _ _).mpr ⟨rfl, .choice rfl firstFault⟩
  · have means := (built _).2.2 ⟨by decide, fun _ => isChoice_elseFirst⟩
    generalize buildNode _ = node at means
    cases means with
    | choose single =>
      cases single
      rfl

end SqlMapper.Document
