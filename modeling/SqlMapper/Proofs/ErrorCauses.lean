/-
Module: SqlMapper.Proofs.ErrorCauses
Purpose: Every error of a rendering has a cause that the document shows without being rendered.
Main exports: refusal_cases, StaticCause, staticCause_of_raises, renderStatement_error_has_cause
-/
import SqlMapper.Proofs.InclusionClosure
import SqlMapper.Proofs.TestOutcome

namespace SqlMapper.Query

open SqlMapper.Condition SqlMapper.Document SqlMapper.Markup SqlMapper.Number SqlMapper.Parameter
open Relation

/-!
A rendering raises its error at a point it reaches, and what it has before it
there stands in the closure of its statement. So a document in which the scans
find nothing, every inclusion names a statement, no inclusions lead back and
every test can be read and compares with a number is rendered for every bag.
-/

/-! ### Refusals -/

theorem choiceAction_refusal {bag : Bag} {otherwise : List Node} {whens : List (Branch Node)}
    {e : QueryError} (h : choiceAction bag otherwise whens = .refuse e) :
    ∃ branch ∈ whens, ∃ error,
      Condition.test branch.test bag = .error error ∧ e = .condition error := by
  induction whens with
  | nil => cases h
  | cons branch rest ih =>
    obtain ⟨test, children⟩ := branch
    simp only [choiceAction] at h
    cases htest : Condition.test test bag with
    | error error =>
      rw [htest] at h
      cases h
      exact ⟨_, List.mem_cons_self, error, htest, rfl⟩
    | ok holds =>
      rw [htest] at h
      cases holds with
      | true => cases h
      | false =>
        obtain ⟨branch, member, cause⟩ := ih h
        exact ⟨branch, List.mem_cons_of_mem _ member, cause⟩

/-- A node is refused as an element that is no directive, as a directive that
could not be built, or because a test of its own fails. -/
theorem refusal_cases {bag : Bag} {node : Node} {e : QueryError}
    (h : action bag node = .refuse e) :
    (∃ tag, node = .unsupported tag ∧ e = .unsupportedTag tag)
      ∨ (∃ tag error, node = .invalid tag error ∧ e = .markup error)
      ∨ ∃ test ∈ nodeTests node, ∃ error,
        Condition.test test bag = .error error ∧ e = .condition error := by
  cases node with
  | text characters => cases h
  | ifTest test children =>
    simp only [action] at h
    cases htest : Condition.test test bag with
    | error error =>
      rw [htest] at h
      cases h
      exact .inr (.inr ⟨test, List.mem_singleton.mpr rfl, error, htest, rfl⟩)
    | ok holds =>
      rw [htest] at h
      cases holds <;> cases h
  | choose whens otherwise =>
    obtain ⟨branch, member, cause⟩ := choiceAction_refusal h
    exact .inr (.inr ⟨branch.test, List.mem_map_of_mem member, cause⟩)
  | isNotNull property children =>
    simp only [action] at h
    split at h
    · cases h
    · split at h <;> cases h
  | inclusion refid => cases h
  | whereBlock children => cases h
  | unsupported tag =>
    cases h
    exact .inl ⟨tag, rfl, rfl⟩
  | invalid tag error =>
    cases h
    exact .inr (.inl ⟨tag, error, rfl, rfl⟩)

/-! ### Static causes -/

/-- What a document shows of the cause of an error that rendering a statement of
it ends in. The errors of loading a file have no cause in a document. -/
def StaticCause (d : SqlMapper.Document) (file : String) (bag : Bag) (s : Statement) :
    QueryError → Prop
  | .unsupportedTag tag => ∃ via, InClosure d s via ∧ ⟨via.id, tag⟩ ∈ d.unsupportedTags
  | .markup error =>
      ∃ via tag, InClosure d s via ∧ ⟨via.id, tag, error⟩ ∈ d.invalidDirectives
  | .notDefined id =>
      ∃ refid, id = file ++ "." ++ refid ∧ StandsIn d s (.inclusion refid)
        ∧ d.statement? refid = none
  | .inclusionCycle _ => MeetsItself d s
  | .condition (.malformed text) =>
      ∃ test, TestStandsIn d s test ∧ Expression.parse test = .error (.malformed text)
  | .condition (.unknownOperator operator text) =>
      ∃ test, TestStandsIn d s test
        ∧ Expression.parse test = .error (.unknownOperator operator text)
  | .condition (.nonNumericLiteral property literal) =>
      ∃ test operator value, TestStandsIn d s test
        ∧ Expression.parse test = .ok ⟨property, operator, literal⟩
        ∧ bag property = some value ∧ isDigits value.toList = true
        ∧ readBinary? Format.double literal.toList = none
  | .rootNotSet | .fileNotFound _ | .invalidId _ | .invalidFileName _ | .unreadable _ _ => False

theorem staticCause_of_test {d : SqlMapper.Document} {file : String} {bag : Bag} {s : Statement}
    {test : String} {error : ConditionError} (stands : TestStandsIn d s test)
    (fails : Condition.test test bag = .error error) :
    StaticCause d file bag s (.condition error) := by
  rcases test_eq_error_iff.mp fails with unread | ⟨x, value, read, present, digits, literal, rfl⟩
  · rcases parse_error_cases unread with rfl | ⟨operator, rfl⟩
    · exact ⟨test, stands, unread⟩
    · exact ⟨test, stands, unread⟩
  · exact ⟨test, x.operator, value, stands, read, present, digits, literal⟩

/-- What a rendering raises at a point that it reaches has its cause in the document. -/
theorem staticCause_of_raises {d : SqlMapper.Document} {file : String} {bag : Bag}
    {s : Statement} (member : s ∈ d.statements) {p : Point} {e : QueryError}
    (reached : Reaches d file bag (.start s) p) (raises : Raises d file bag p e) :
    StaticCause d file bag s e := by
  cases raises with
  | @refuse chain node rest e refused =>
    obtain ⟨last, _, closure, walked⟩ := exists_standsIn_of_reaches reached
    have hlast := mem_statements_of_inClosure member closure
    rcases refusal_cases refused with ⟨tag, rfl, rfl⟩ | ⟨tag, error, rfl, rfl⟩
      | ⟨test, asked, error, fails, rfl⟩
    · exact ⟨last, closure, mem_unsupportedTags_iff.mpr ⟨last, hlast, rfl, walked⟩⟩
    · exact ⟨last, tag, closure, mem_invalidDirectives_iff.mpr ⟨last, hlast, rfl, walked⟩⟩
    · exact staticCause_of_test ⟨node, ⟨last, closure, walked⟩, asked⟩ fails
  | cycle on => exact meetsItself_of_reaches member reached on
  | @undefined chain refid rest off missing =>
    obtain ⟨last, _, closure, walked⟩ := exists_standsIn_of_reaches reached
    exact ⟨refid, rfl, ⟨last, closure, walked⟩, missing⟩

/-- The error of a statement has its cause in the document. -/
theorem staticCause_of_renderStatement {d : SqlMapper.Document} {file : String} {bag : Bag}
    {s : Statement} (member : s ∈ d.statements) {e : QueryError}
    (fails : renderStatement d file bag s = .error e) : StaticCause d file bag s e := by
  obtain ⟨p, reached, raises⟩ := renderStatement_eq_error_iff.mp fails
  exact staticCause_of_raises member reached raises

/-- A statement is clean if nothing in its closure can be the cause of an error. -/
structure Clean (d : SqlMapper.Document) (s : Statement) : Prop where
  supported : d.unsupportedTags = []
  valid : d.invalidDirectives = []
  defined : ∀ refid, StandsIn d s (.inclusion refid) → ∃ target, d.statement? refid = some target
  acyclic : ¬ MeetsItself d s
  numeric : ∀ test, TestStandsIn d s test →
    ∃ x number, Expression.parse test = .ok x
      ∧ readBinary? Format.double x.literal.toList = some number

theorem Clean.not_staticCause {d : SqlMapper.Document} {s : Statement} (clean : Clean d s)
    {file : String} {bag : Bag} (e : QueryError) : ¬ StaticCause d file bag s e := by
  cases e with
  | unsupportedTag tag =>
    rintro ⟨via, _, listed⟩
    rw [clean.supported] at listed
    cases listed
  | markup error =>
    rintro ⟨via, tag, _, listed⟩
    rw [clean.valid] at listed
    cases listed
  | notDefined id =>
    rintro ⟨refid, _, stands, missing⟩
    obtain ⟨target, found⟩ := clean.defined refid stands
    rw [found] at missing
    cases missing
  | inclusionCycle chain =>
    intro cycle
    exact clean.acyclic cycle
  | condition error =>
    cases error with
    | malformed text =>
      rintro ⟨test, stands, unread⟩
      obtain ⟨x, number, read, _⟩ := clean.numeric test stands
      rw [read] at unread
      cases unread
    | unknownOperator operator text =>
      rintro ⟨test, stands, unread⟩
      obtain ⟨x, number, read, _⟩ := clean.numeric test stands
      rw [read] at unread
      cases unread
    | nonNumericLiteral property literal =>
      rintro ⟨test, operator, value, stands, read, _, _, notANumber⟩
      obtain ⟨x, number, hread, hnumber⟩ := clean.numeric test stands
      rw [read] at hread
      cases hread
      rw [notANumber] at hnumber
      cases hnumber
  | rootNotSet | fileNotFound _ | invalidId _ | invalidFileName _ | unreadable _ _ =>
    intro impossible
    exact impossible

/-- Every error of a rendering has its cause in the document: an element or a
directive that a scan of the document lists, an inclusion of what is not defined,
inclusions that lead back, or a test, each in the closure of the statement. In
particular a clean statement is rendered, whatever the bag. -/
theorem renderStatement_error_has_cause {d : SqlMapper.Document} {s : Statement}
    (member : s ∈ d.statements) (file : String) (bag : Bag) :
    (∀ e, renderStatement d file bag s = .error e → StaticCause d file bag s e)
      ∧ (Clean d s → ∃ sql, renderStatement d file bag s = .ok sql) := by
  constructor
  · intro e fails
    exact staticCause_of_renderStatement member fails
  · intro clean
    cases h : renderStatement d file bag s with
    | ok sql => exact ⟨sql, rfl⟩
    | error e => exact absurd (staticCause_of_renderStatement member h) (clean.not_staticCause e)

private def numberedColumns : Statement :=
  ⟨"sql", "columns", [.text "name", .ifTest "page == 1" [.text ", total"]]⟩

private def columnList : Statement := ⟨"select", "list", [.text "SELECT ", .inclusion "columns"]⟩

private def cleanDocument : SqlMapper.Document := ⟨[columnList, numberedColumns]⟩

private theorem standsIn_cleanDocument {node : Node}
    (h : StandsIn cleanDocument columnList node) :
    node = .inclusion "columns" ∨ node = .ifTest "page == 1" [.text ", total"]
      ∨ ∃ characters, node = .text characters := by
  obtain ⟨via, closure, walked⟩ := h
  have member := mem_statements_of_inClosure List.mem_cons_self closure
  simp only [List.mem_cons, List.not_mem_nil, or_false] at member
  rcases member with rfl | rfl
  · simp only [columnList, walkAll, Node.walk, List.append_nil, List.cons_append, List.nil_append,
      List.mem_cons, List.not_mem_nil, or_false] at walked
    rcases walked with rfl | rfl <;> simp
  · simp only [numberedColumns, walkAll, Node.walk, List.append_nil, List.cons_append,
      List.nil_append, List.mem_cons, List.not_mem_nil, or_false] at walked
    rcases walked with rfl | rfl | rfl <;> simp

private theorem mayInclude_cleanDocument {s next : Statement}
    (member : s ∈ cleanDocument.statements)
    (h : MayInclude cleanDocument s next) : s = columnList ∧ next = numberedColumns := by
  obtain ⟨refid, walked, found⟩ := h
  simp only [cleanDocument, List.mem_cons, List.not_mem_nil, or_false] at member
  rcases member with rfl | rfl
  · simp only [columnList, walkAll, Node.walk, List.append_nil, List.cons_append, List.nil_append,
      List.mem_cons, reduceCtorEq, Node.inclusion.injEq, List.not_mem_nil, or_false, false_or]
      at walked
    subst walked
    exact ⟨rfl, Option.some.inj (found.symm.trans rfl)⟩
  · simp [numberedColumns, walkAll, Node.walk] at walked

private theorem clean_cleanDocument : Clean cleanDocument columnList where
  supported := rfl
  valid := rfl
  defined := by
    intro refid stands
    rcases standsIn_cleanDocument stands with same | same | ⟨characters, same⟩
    · cases same
      exact ⟨numberedColumns, rfl⟩
    · cases same
    · cases same
  acyclic := by
    rintro ⟨via, again, closure, back, same⟩
    have member := mem_statements_of_inClosure List.mem_cons_self closure
    obtain ⟨next, step, later⟩ := TransGen.head'_iff.mp back
    obtain ⟨rfl, rfl⟩ := mayInclude_cleanDocument member step
    cases later using ReflTransGen.head_induction_on with
    | refl => exact absurd same (by decide)
    | head step _ _ =>
      have := (mayInclude_cleanDocument (List.mem_cons_of_mem _ List.mem_cons_self) step).1
      exact absurd (congrArg Statement.id this) (by decide)
  numeric := by
    rintro test ⟨node, stands, asked⟩
    rcases standsIn_cleanDocument stands with rfl | rfl | ⟨characters, rfl⟩
    · simp [nodeTests] at asked
    · simp only [nodeTests, List.mem_singleton] at asked
      subst asked
      exact ⟨⟨"page", .equal, "1"⟩, _, rfl, readBinary?_of_isDigits Format.double (by decide)⟩
    · simp [nodeTests] at asked

/-- The error of an element in an included statement is listed by the scan of the
document, and a document with an inclusion and a test in it may be clean. -/
theorem renderStatement_error_has_cause_included :
    let foreach : Statement :=
      ⟨"sql", "filter", [.choose [⟨"name == x", [.unsupported "foreach"]⟩] []]⟩
    let page : Statement :=
      ⟨"select", "page", [.text "SELECT ", .isNotNull "name" [.whereBlock [.inclusion "filter"]]]⟩
    let d : SqlMapper.Document := ⟨[page, foreach]⟩
    let bag : Bag := fun name => if name = "name" then some "x" else none
    renderStatement d "Test" bag page = .error (.unsupportedTag "foreach")
      ∧ StaticCause d "Test" bag page (.unsupportedTag "foreach")
      ∧ ∃ sql, renderStatement cleanDocument "Test" bag columnList = .ok sql := by
  intro foreach page d bag
  have fails : renderStatement d "Test" bag page = .error (.unsupportedTag "foreach") := by
    apply renderStatement_eq_error_iff.mpr
    refine ⟨⟨["page", "filter"], [.unsupported "foreach"]⟩, ?_, .refuse rfl⟩
    exact .head (.next rfl) <| .head (.enter rfl) <| .head (.block rfl) <|
      .head (.inclusion (by decide) rfl) <| .single (.enter rfl)
  exact ⟨fails, (renderStatement_error_has_cause List.mem_cons_self "Test" bag).1 _ fails,
    (renderStatement_error_has_cause List.mem_cons_self "Test" bag).2
      clean_cleanDocument⟩

end SqlMapper.Query
