/-
Module: SqlMapper.Proofs.ChoiceGrammar
Purpose: Which trees are the children of a choice, and what is wrong with others.
Main exports: ChildFault, Faultless, ChoiceFault, IsChoice, buildBranches_append,
  exists_first_fault, choice_of_isChoice, choice_of_fault, isChoice_iff
-/
import SqlMapper.Proofs.ParsedDocuments
import SqlMapper.Proofs.Spans

namespace SqlMapper.Document

open SqlMapper.Markup SqlMapper.Text

/-!
A choice is read from left to right. Whether a child can stand where it stands
depends on the children before it only by whether there was a last resort among
them, so the grammar judges each child with those before it, and the first child
at fault decides. What the whole choice lacks is looked at last.
-/

/-! ### The grammar -/

/-- Whether a tree is an element that is named after a directive. -/
def isNamed (d : Directive) : Content → Bool
  | .text _ => false
  | .element tag _ _ => sameLetters d.name tag

/-- What is wrong with a child of a choice, behind those that stand before it. -/
inductive ChildFault (before : List Content) : Content → MarkupError → Prop where
  | strayText {characters : String} (visible : isBlankText characters.toList = false) :
      ChildFault before (.text characters)
        (.invalidChoose (.strayText (String.ofList (trim characters.toList))))
  | untested {tag : String} {attributes : List (String × String)} {children : List Content}
      (isWhen : sameLetters Directive.when.name tag = true)
      (lacks : ∀ a ∈ attributes, sameLetters a.1 "test" = false) :
      ChildFault before (.element tag attributes children) (.missingAttribute tag "test")
  | secondOtherwise {tag : String} {attributes : List (String × String)}
      {children : List Content} (isOtherwise : sameLetters Directive.otherwise.name tag = true)
      (earlier : ∃ other ∈ before, isNamed .otherwise other = true) :
      ChildFault before (.element tag attributes children) (.invalidChoose .secondOtherwise)
  | unexpected {tag : String} {attributes : List (String × String)} {children : List Content}
      (notWhen : sameLetters Directive.when.name tag = false)
      (notOtherwise : sameLetters Directive.otherwise.name tag = false) :
      ChildFault before (.element tag attributes children) (.invalidChoose (.unexpected tag))

/-- No child is at fault, where others stand before all of them. -/
def Faultless (before children : List Content) : Prop :=
  ∀ front child back, children = front ++ child :: back →
    ∀ e, ¬ ChildFault (before ++ front) child e

/-- What is wrong with a choice: the fault of its first child at fault, else that
it has no branch, else that it has no last resort. -/
inductive ChoiceFault (children : List Content) : MarkupError → Prop where
  | child {front back : List Content} {child : Content} {e : MarkupError}
      (whole : children = front ++ child :: back) (first : Faultless [] front)
      (fault : ChildFault front child e) : ChoiceFault children e
  | noWhen (faultless : Faultless [] children)
      (none : ∀ child ∈ children, isNamed .when child = false) :
      ChoiceFault children (.invalidChoose .noWhen)
  | noOtherwise (faultless : Faultless [] children)
      (some : ∃ child ∈ children, isNamed .when child = true)
      (none : ∀ child ∈ children, isNamed .otherwise child = false) :
      ChoiceFault children (.invalidChoose .noOtherwise)

/-- Trees are the children of a choice: blank texts, at least one branch, each
with a test, and exactly one last resort, in any order. -/
structure IsChoice (children : List Content) : Prop where
  texts : ∀ characters, .text characters ∈ children → isBlankText characters.toList = true
  elements : ∀ tag attributes inner, .element tag attributes inner ∈ children →
    (sameLetters Directive.when.name tag = true ∧ ∃ a ∈ attributes, sameLetters a.1 "test" = true)
      ∨ sameLetters Directive.otherwise.name tag = true
  someWhen : ∃ child ∈ children, isNamed .when child = true
  oneOtherwise : children.countP (isNamed .otherwise) = 1

/-- The branch that a child of a choice stands for. -/
def branch? : Content → Option (Branch Node)
  | .text _ => none
  | .element tag attributes children =>
      if sameLetters Directive.when.name tag then
        (attribute? attributes "test").map fun test => ⟨test, children.map buildNode⟩
      else none

/-- The last resort that a child of a choice stands for. -/
def lastResort? : Content → Option (List Node)
  | .text _ => none
  | .element tag _ children =>
      if sameLetters Directive.otherwise.name tag then some (children.map buildNode) else none

/-! ### Names and attributes -/

theorem ofName?_eq_some_iff {d : Directive} {tag : String} :
    Directive.ofName? tag = some d ↔ sameLetters d.name tag = true :=
  ⟨List.find?_some, ofName?_of_sameLetters⟩

/-- A name stands for one directive only. -/
theorem sameLetters_eq_false {d other : Directive} {tag : String}
    (h : sameLetters d.name tag = true) (differ : other ≠ d) :
    sameLetters other.name tag = false := by
  rw [← Bool.not_eq_true, ← ofName?_eq_some_iff, ofName?_eq_some_iff.mpr h]
  rintro ⟨⟩
  exact differ rfl

theorem buildNodes_eq_map (contents : List Content) :
    buildNodes contents = contents.map buildNode := by
  induction contents with
  | nil => rw [buildNodes, List.map_nil]
  | cons content rest ih => rw [buildNodes, ih, List.map_cons]

theorem requiredAttribute_of_lacks (tag : String) {name : String}
    {attributes : List (String × String)} (lacks : ∀ a ∈ attributes, sameLetters a.1 name = false) :
    requiredAttribute tag attributes name = .error (.missingAttribute tag name) := by
  rw [requiredAttribute, attribute?_eq_none_iff.mpr lacks]

theorem requiredAttribute_of_has (tag : String) {name value : String}
    {attributes : List (String × String)} (has : attribute? attributes name = some value) :
    requiredAttribute tag attributes name = .ok value := by
  rw [requiredAttribute, has]

/-! ### The children of a choice -/

theorem isSome_lastResort? (child : Content) :
    (lastResort? child).isSome = isNamed .otherwise child := by
  cases child with
  | text characters => rfl
  | element tag attributes inner =>
    rw [lastResort?, isNamed]
    cases sameLetters Directive.otherwise.name tag <;> rfl

theorem length_filterMap_lastResort? (children : List Content) :
    (children.filterMap lastResort?).length = children.countP (isNamed .otherwise) := by
  rw [List.length_filterMap_eq_countP]
  exact List.countP_congr fun child _ => by rw [isSome_lastResort?]

theorem isSome_head?_filterMap (children : List Content) :
    (children.filterMap lastResort?).head?.isSome = children.any (isNamed .otherwise) := by
  induction children with
  | nil => rfl
  | cons child rest ih =>
    have resort := isSome_lastResort? child
    cases found : lastResort? child with
    | none => simpa [found, ← resort] using ih
    | some nodes => simp [found, ← resort]

/-- A text has nothing left when it is trimmed if it is blank. -/
theorem isEmpty_trim (cs : List Char) : (trim cs).isEmpty = isBlankText cs := by
  rw [Bool.eq_iff_iff, List.isEmpty_iff, trim_eq_nil_iff]

section

variable {before children front rest : List Content} {child : Content} {e : MarkupError}
  {last : Option (List Node)}

/-- A child at fault ends the reading of a choice. -/
theorem buildBranches_of_fault (settled : last.isSome = before.any (isNamed .otherwise))
    (fault : ChildFault before child e) (rest : List Content) :
    buildBranches last (child :: rest) = .error e := by
  cases fault with
  | strayText visible =>
    rw [buildBranches]
    simp [isEmpty_trim, visible]
  | @untested tag _ _ isWhen lacks =>
    rw [buildBranches, ofName?_of_sameLetters isWhen]
    simp [requiredAttribute_of_lacks tag lacks]
  | secondOtherwise isOtherwise earlier =>
    have isSome : last.isSome = true := by
      rw [settled, List.any_eq_true]
      exact earlier
    rw [buildBranches, ofName?_of_sameLetters isOtherwise]
    simp [isSome]
  | @unexpected tag _ _ notWhen notOtherwise =>
    rw [buildBranches]
    cases named : Directive.ofName? tag with
    | none => rfl
    | some d =>
      have same := ofName?_eq_some_iff.mp named
      cases d with
      | when =>
        rw [notWhen] at same
        cases same
      | otherwise =>
        rw [notOtherwise] at same
        cases same
      | _ => rfl

/-- A child without fault adds what it stands for. -/
theorem buildBranches_of_not_fault (settled : last.isSome = before.any (isNamed .otherwise))
    (sound : ∀ e, ¬ ChildFault before child e) (rest : List Content) :
    buildBranches last (child :: rest)
      = (buildBranches (last.or (lastResort? child)) rest).map fun (whens, otherwise) =>
          ((branch? child).toList ++ whens, otherwise) := by
  have same : ∀ result : Except MarkupError (List (Branch Node) × Option (List Node)),
      result.map (fun (whens, otherwise) => (whens, otherwise)) = result := by
    rintro (e | parts) <;> rfl
  cases child with
  | text characters =>
    have blank : isBlankText characters.toList = true := by
      rw [← Bool.not_eq_false]
      exact fun visible => sound _ (.strayText visible)
    rw [buildBranches]
    simp [isEmpty_trim, blank, lastResort?, branch?, same]
  | element tag attributes inner =>
    cases isWhen : sameLetters Directive.when.name tag with
    | true =>
      obtain ⟨test, tested⟩ : ∃ test, attribute? attributes "test" = some test := by
        rw [← Option.ne_none_iff_exists', ne_eq, attribute?_eq_none_iff]
        exact fun lacks => sound _ (.untested isWhen lacks)
      have notOtherwise : sameLetters Directive.otherwise.name tag = false :=
        sameLetters_eq_false isWhen (by decide)
      rw [buildBranches, ofName?_of_sameLetters isWhen]
      simp [requiredAttribute_of_has tag tested, lastResort?, notOtherwise, branch?, isWhen, tested,
        buildNodes_eq_map]
    | false =>
      cases isOtherwise : sameLetters Directive.otherwise.name tag with
      | true =>
        have none : last = none := by
          rw [← Option.not_isSome_iff_eq_none, settled, List.any_eq_true]
          exact fun earlier => sound _ (.secondOtherwise isOtherwise earlier)
        rw [buildBranches, ofName?_of_sameLetters isOtherwise]
        simp [none, lastResort?, isOtherwise, branch?, isWhen, buildNodes_eq_map, same]
      | false => exact absurd (.unexpected isWhen isOtherwise) (sound _)

theorem faultless_nil (before : List Content) : Faultless before [] := by
  intro front child back whole
  cases front <;> cases whole

theorem faultless_cons_iff :
    Faultless before (child :: rest)
      ↔ (∀ e, ¬ ChildFault before child e) ∧ Faultless (before ++ [child]) rest := by
  constructor
  · intro sound
    constructor
    · intro e fault
      refine sound [] child rest rfl e ?_
      rwa [List.append_nil]
    · intro front next back whole e fault
      refine sound (child :: front) next back (by rw [whole, List.cons_append]) e ?_
      rwa [List.append_assoc, List.singleton_append] at fault
  · rintro ⟨first, others⟩ front next back whole e fault
    cases front with
    | nil =>
      cases whole
      rw [List.append_nil] at fault
      exact first e fault
    | cons other front =>
      cases whole
      refine others front next back rfl e ?_
      rwa [List.append_assoc, List.singleton_append]

/-- Children without fault add what they stand for, whatever follows them. -/
theorem buildBranches_append (settled : last.isSome = before.any (isNamed .otherwise))
    (sound : Faultless before front) (rest : List Content) :
    buildBranches last (front ++ rest)
      = (buildBranches (last.or (front.filterMap lastResort?).head?) rest).map
          fun (whens, otherwise) => (front.filterMap branch? ++ whens, otherwise) := by
  induction front generalizing before last with
  | nil =>
    simp only [List.nil_append, List.filterMap_nil, List.head?_nil, Option.or_none]
    cases buildBranches last rest <;> rfl
  | cons child front ih =>
    obtain ⟨first, others⟩ := faultless_cons_iff.mp sound
    rw [List.cons_append, buildBranches_of_not_fault settled first,
      ih (by simp [settled, isSome_lastResort?]) others]
    have resort : (last.or (lastResort? child)).or (front.filterMap lastResort?).head?
        = last.or ((child :: front).filterMap lastResort?).head? := by
      cases found : lastResort? child <;> simp [found]
    rw [resort]
    cases buildBranches (last.or ((child :: front).filterMap lastResort?).head?) rest with
    | error e => rfl
    | ok parts => cases found : branch? child <;> simp [Except.map, found]

/-- Of some children none is at fault or there is a first one. -/
theorem exists_first_fault (before children : List Content) :
    Faultless before children
      ∨ ∃ front child back e, children = front ++ child :: back ∧ Faultless before front
        ∧ ChildFault (before ++ front) child e := by
  induction children generalizing before with
  | nil => exact .inl (faultless_nil before)
  | cons child rest ih =>
    by_cases fault : ∃ e, ChildFault before child e
    · obtain ⟨e, fault⟩ := fault
      exact .inr ⟨[], child, rest, e, rfl, faultless_nil before, by rwa [List.append_nil]⟩
    · rw [not_exists] at fault
      rcases ih (before ++ [child]) with sound | ⟨front, other, back, e, whole, sound, atFault⟩
      · exact .inl (faultless_cons_iff.mpr ⟨fault, sound⟩)
      · refine .inr ⟨child :: front, other, back, e, by rw [whole, List.cons_append],
          faultless_cons_iff.mpr ⟨fault, sound⟩, ?_⟩
        rwa [List.append_assoc, List.singleton_append] at atFault

end

/-! ### Choices -/

section

variable {children : List Content} {e : MarkupError}

/-- No child of a choice is at fault. -/
theorem IsChoice.faultless (h : IsChoice children) : Faultless [] children := by
  intro front child back whole e fault
  have member : child ∈ children := by
    rw [whole]
    simp
  cases fault with
  | strayText visible =>
    rw [h.texts _ member] at visible
    cases visible
  | untested isWhen lacks =>
    rcases h.elements _ _ _ member with ⟨-, a, inside, has⟩ | isOtherwise
    · rw [lacks a inside] at has
      cases has
    · rw [sameLetters_eq_false isWhen (by decide)] at isOtherwise
      cases isOtherwise
  | secondOtherwise isOtherwise earlier =>
    have single := h.oneOtherwise
    have two : 0 < front.countP (isNamed .otherwise) := List.countP_pos_iff.mpr earlier
    rw [whole, List.countP_append, List.countP_cons_of_pos (by exact isOtherwise)] at single
    omega
  | unexpected notWhen notOtherwise =>
    rcases h.elements _ _ _ member with ⟨isWhen, -⟩ | isOtherwise
    · rw [notWhen] at isWhen
      cases isWhen
    · rw [notOtherwise] at isOtherwise
      cases isOtherwise

/-- Children without fault, among which there are a branch and a last resort, are
those of a choice. -/
theorem isChoice_of_faultless (sound : Faultless [] children)
    (someWhen : ∃ child ∈ children, isNamed .when child = true)
    (someOtherwise : ∃ child ∈ children, isNamed .otherwise child = true) :
    IsChoice children := by
  refine ⟨?_, ?_, someWhen, ?_⟩
  · intro characters member
    obtain ⟨front, back, whole⟩ := List.append_of_mem member
    rw [← Bool.not_eq_false]
    exact fun visible => sound front _ back whole _ (.strayText visible)
  · intro tag attributes inner member
    obtain ⟨front, back, whole⟩ := List.append_of_mem member
    by_contra other
    rw [not_or, not_and, not_exists] at other
    obtain ⟨untested, notOtherwise⟩ := other
    rw [Bool.not_eq_true] at notOtherwise
    cases isWhen : sameLetters Directive.when.name tag with
    | true =>
      have lacks : ∀ a ∈ attributes, sameLetters a.1 "test" = false := by
        intro a inside
        rw [← Bool.not_eq_true]
        exact fun has => untested isWhen a ⟨inside, has⟩
      exact sound front _ back whole _ (.untested isWhen lacks)
    | false => exact sound front _ back whole _ (.unexpected isWhen notOtherwise)
  · -- Before one last resort there is no other, and none comes behind it.
    obtain ⟨child, member, isOtherwise⟩ := someOtherwise
    obtain ⟨front, back, whole⟩ := List.append_of_mem member
    have second : ∀ {front back} {next : Content}, children = front ++ next :: back →
        isNamed .otherwise next = true → ∀ other ∈ front, isNamed .otherwise other = false := by
      intro front back next whole isNext other earlier
      rw [← Bool.not_eq_true]
      intro isOther
      cases next with
      | text characters => cases isNext
      | element tag attributes inner =>
        exact sound front _ back whole _ (.secondOtherwise isNext ⟨other, earlier, isOther⟩)
    have noneBefore : front.countP (isNamed .otherwise) = 0 :=
      List.countP_eq_zero.mpr fun other earlier => by simp [second whole isOtherwise other earlier]
    have noneBehind : back.countP (isNamed .otherwise) = 0 := by
      rw [List.countP_eq_zero]
      intro later inside isLater
      obtain ⟨mid, rest, split⟩ := List.append_of_mem inside
      have whole : children = (front ++ child :: mid) ++ later :: rest := by
        rw [whole, split]
        simp
      have := second whole isLater child (by simp)
      rw [isOtherwise] at this
      cases this
    rw [whole, List.countP_append, List.countP_cons_of_pos isOtherwise, noneBefore, noneBehind]

/-- Every sequence of children is that of a choice or has a fault. -/
theorem isChoice_or_exists_fault (children : List Content) :
    IsChoice children ∨ ∃ e, ChoiceFault children e := by
  rcases exists_first_fault [] children with sound | ⟨front, child, back, e, whole, sound, fault⟩
  · by_cases someWhen : ∃ child ∈ children, isNamed .when child = true
    · by_cases someOtherwise : ∃ child ∈ children, isNamed .otherwise child = true
      · exact .inl (isChoice_of_faultless sound someWhen someOtherwise)
      · exact .inr ⟨_, .noOtherwise sound someWhen (by simpa using someOtherwise)⟩
    · exact .inr ⟨_, .noWhen sound (by simpa using someWhen)⟩
  · exact .inr ⟨e, .child whole sound fault⟩

/-- Before the first child there is no last resort. -/
theorem nothingSettled :
    (none : Option (List Node)).isSome = ([] : List Content).any (isNamed .otherwise) := rfl

theorem buildBranches_of_faultless (sound : Faultless [] children) :
    buildBranches none children
      = .ok (children.filterMap branch?, (children.filterMap lastResort?).head?) := by
  have whole := buildBranches_append nothingSettled sound []
  rw [List.append_nil] at whole
  rw [whole, buildBranches]
  simp [Except.map]

/-- Without a branch among the children none is built. -/
theorem filterMap_branch?_eq_nil_iff (sound : Faultless [] children) :
    children.filterMap branch? = [] ↔ ∀ child ∈ children, isNamed .when child = false := by
  rw [List.filterMap_eq_nil_iff]
  refine forall₂_congr fun child member => ?_
  cases child with
  | text characters => simp [branch?, isNamed]
  | element tag attributes inner =>
    rw [branch?, isNamed]
    cases isWhen : sameLetters Directive.when.name tag with
    | false => simp
    | true =>
      obtain ⟨front, back, whole⟩ := List.append_of_mem member
      simp only [if_true, Option.map_eq_none_iff, attribute?_eq_none_iff, Bool.true_eq_false,
        iff_false]
      exact fun lacks => sound front _ back whole _ (.untested isWhen lacks)

/-- A choice is built of its branches in order and its last resort. -/
theorem choice_of_isChoice (h : IsChoice children) :
    ∃ otherwise, children.filterMap lastResort? = [otherwise]
      ∧ (buildBranches none children >>= chooseNode)
        = .ok (.choose (children.filterMap branch?) otherwise) := by
  have sound := h.faultless
  obtain ⟨otherwise, single⟩ : ∃ otherwise, children.filterMap lastResort? = [otherwise] := by
    rw [← List.length_eq_one_iff, length_filterMap_lastResort?, h.oneOtherwise]
  refine ⟨otherwise, single, ?_⟩
  rw [buildBranches_of_faultless sound, single]
  obtain ⟨child, member, isWhen⟩ := h.someWhen
  cases whens : children.filterMap branch? with
  | nil =>
    rw [(filterMap_branch?_eq_nil_iff sound).mp whens child member] at isWhen
    cases isWhen
  | cons first others => rfl

/-- What is wrong with a choice is what building it ends with. -/
theorem choice_of_fault (fault : ChoiceFault children e) :
    (buildBranches none children >>= chooseNode) = .error e := by
  cases fault with
  | @child front back child _ whole first fault =>
    rw [whole, buildBranches_append nothingSettled first, Option.none_or,
      buildBranches_of_fault (isSome_head?_filterMap front) fault]
    rfl
  | noWhen sound none =>
    rw [buildBranches_of_faultless sound, (filterMap_branch?_eq_nil_iff sound).mpr none]
    rfl
  | noOtherwise sound some none =>
    have bare : children.filterMap lastResort? = [] := by
      rw [← List.length_eq_zero_iff, length_filterMap_lastResort?, List.countP_eq_zero]
      intro child member
      simp [none child member]
    rw [buildBranches_of_faultless sound, bare]
    cases whens : children.filterMap branch? with
    | nil =>
      obtain ⟨child, member, isWhen⟩ := some
      rw [(filterMap_branch?_eq_nil_iff sound).mp whens child member] at isWhen
      cases isWhen
    | cons first others => rfl

/-- A choice has no fault. -/
theorem isChoice_iff : IsChoice children ↔ ∀ e, ¬ ChoiceFault children e := by
  constructor
  · intro isChoice e fault
    obtain ⟨otherwise, -, built⟩ := choice_of_isChoice isChoice
    rw [choice_of_fault fault] at built
    cases built
  · intro sound
    rcases isChoice_or_exists_fault children with isChoice | ⟨e, fault⟩
    · exact isChoice
    · exact absurd fault (sound e)

end

end SqlMapper.Document
