/-
Module: SqlMapper.Proofs.Reformatting
Purpose: How the texts of a document are laid out makes no difference to its SQL.
Main exports: Reformatted, ReformattedAll.alike, StatementReformatted, reformatting_irrelevant
-/
import SqlMapper.Proofs.Likeness
import SqlMapper.Proofs.Reflow

namespace SqlMapper.Query

open SqlMapper.Condition SqlMapper.Document SqlMapper.Markup SqlMapper.Parameter SqlMapper.Text

/-!
A template is indented and broken into lines for its readers. What is rendered
does not depend on it, though blanks are looked at more than once on the way: in
a block, which is searched for a connector, in an included statement, and in the
statement itself. At each of these places texts that are laid out in another way
come to the same, and between them they are only put together.
-/

/-- A text laid out in another way may stand for the text. -/
theorem textCongruence_reflowed : TextCongruence Reflowed where
  refl := Reflowed.refl
  append := Reflowed.append
  flattenChars_eq := Reflowed.flattenChars_eq

mutual

/-- Nodes that are the same, except for the layout of texts. -/
inductive Reformatted : Node → Node → Prop where
  | text {characters characters' : String}
      (layout : Reflowed characters.toList characters'.toList) :
      Reformatted (.text characters) (.text characters')
  | ifTest (test : String) {children children' : List Node}
      (inside : ReformattedAll children children') :
      Reformatted (.ifTest test children) (.ifTest test children')
  | choose {whens whens' : List (Branch Node)} {otherwise otherwise' : List Node}
      (branches : ReformattedBranches whens whens') (last : ReformattedAll otherwise otherwise') :
      Reformatted (.choose whens otherwise) (.choose whens' otherwise')
  | isNotNull (property : String) {children children' : List Node}
      (inside : ReformattedAll children children') :
      Reformatted (.isNotNull property children) (.isNotNull property children')
  | inclusion (refid : String) : Reformatted (.inclusion refid) (.inclusion refid)
  | whereBlock {children children' : List Node} (inside : ReformattedAll children children') :
      Reformatted (.whereBlock children) (.whereBlock children')
  | unsupported (tag : String) : Reformatted (.unsupported tag) (.unsupported tag)
  | invalid (tag : String) (error : MarkupError) :
      Reformatted (.invalid tag error) (.invalid tag error)

/-- Bodies that are the same, except for the layout of texts. -/
inductive ReformattedAll : List Node → List Node → Prop where
  | nil : ReformattedAll [] []
  | cons {node node' : Node} {rest rest' : List Node} (first : Reformatted node node')
      (behind : ReformattedAll rest rest') : ReformattedAll (node :: rest) (node' :: rest')

/-- Branches that are the same, except for the layout of texts. -/
inductive ReformattedBranches : List (Branch Node) → List (Branch Node) → Prop where
  | nil : ReformattedBranches [] []
  | cons (test : String) {children children' : List Node} {rest rest' : List (Branch Node)}
      (inside : ReformattedAll children children') (behind : ReformattedBranches rest rest') :
      ReformattedBranches (⟨test, children⟩ :: rest) (⟨test, children'⟩ :: rest')

end

section

variable {bag : Bag}

mutual

theorem Reformatted.alike_cons {rest rest' : List Node}
    (behind : Alike bag Reflowed rest rest') {node node' : Node} :
    Reformatted node node' → Alike bag Reflowed (node :: rest) (node' :: rest')
  | .text layout => .text layout behind
  | .ifTest _ inside => .ifTest (fun _ => inside.alike) behind
  | .choose branches last =>
      branches.alike_choose behind last.alike [] [] rfl (by simp)
  | .isNotNull _ inside => .isNotNull (fun _ => inside.alike) behind
  | .inclusion refid => .same (.inclusion refid) behind
  | .whereBlock inside => .whereBlock inside.alike behind
  | .unsupported tag => .same (.unsupported tag) behind
  | .invalid tag error => .same (.invalid tag error) behind
termination_by structural h => h

/-- No bag can tell bodies apart that differ in their layout. -/
theorem ReformattedAll.alike {nodes nodes' : List Node} :
    ReformattedAll nodes nodes' → Alike bag Reflowed nodes nodes'
  | .nil => .nil
  | .cons first behind => first.alike_cons behind.alike
termination_by structural h => h

/-- The branches of a choice behind some that are passed over. -/
theorem ReformattedBranches.alike_choose {rest rest' otherwise otherwise' : List Node}
    (behind : Alike bag Reflowed rest rest') (last : Alike bag Reflowed otherwise otherwise')
    (skipped skipped' : List (Branch Node))
    (tests : skipped.map (·.test) = skipped'.map (·.test))
    (skips : ∀ branch ∈ skipped, Condition.test branch.test bag = .ok false)
    {whens whens' : List (Branch Node)} :
    ReformattedBranches whens whens' →
      Alike bag Reflowed (.choose (skipped ++ whens) otherwise :: rest)
        (.choose (skipped' ++ whens') otherwise' :: rest')
  | .nil => by
      rw [List.append_nil, List.append_nil]
      exact .undecided tests skips last behind
  | @ReformattedBranches.cons test children children' _ _ inside more => by
      by_cases passes : Condition.test test bag = .ok false
      · have further := more.alike_choose behind last (skipped ++ [⟨test, children⟩])
          (skipped' ++ [⟨test, children'⟩]) (by simp [tests]) (skips_concat children skips passes)
        simpa using further
      · exact .decided tests skips passes (fun _ => inside.alike) behind
termination_by structural h => h

end

end

/-- Statements that are the same, except for the layout of texts. -/
structure StatementReformatted (s s' : Statement) : Prop where
  kind : s.kind = s'.kind
  id : s.id = s'.id
  body : ReformattedAll s.body s'.body

/-- Reformatting a document does not change what it gives: of documents that are
the same except for the layout of texts, each statement and the one in its place
give the same SQL or the same error, for any bag. -/
theorem reformatting_irrelevant {d d' : SqlMapper.Document}
    (reformatted : List.Forall₂ StatementReformatted d.statements d'.statements)
    (file : String) (bag : Bag) :
    List.Forall₂ (fun s s' => renderStatement d file bag s = renderStatement d' file bag s')
      d.statements d'.statements := by
  have alike : DocumentsAlike bag Reflowed d d' := by
    apply reformatted.imp
    intro s s' both
    exact ⟨both.kind, both.id, both.body.alike⟩
  exact forall₂_renderStatement textCongruence_reflowed alike file

private def rowsWhere (condition : String) : Statement :=
  ⟨"select", "rows", [.text "SELECT * FROM t", .whereBlock [.isNotNull "a" [.text condition]],
    .inclusion "order"]⟩

private def rowOrder (order : String) : Statement := ⟨"sql", "order", [.text order]⟩

/-- A connector set off by other blanks, and a line break in an included statement. -/
theorem reformatting_irrelevant_connector :
    let d : SqlMapper.Document := ⟨[rowsWhere "and a = 1", rowOrder "ORDER BY a"]⟩
    let d' : SqlMapper.Document := ⟨[rowsWhere "and\u00a0\t a = 1", rowOrder "ORDER\r\nBY a"]⟩
    let bag : Bag := fun name => if name = "a" then some "1" else none
    List.Forall₂ StatementReformatted d.statements d'.statements
      ∧ renderStatement d "Test" bag (rowsWhere "and a = 1")
        = renderStatement d' "Test" bag (rowsWhere "and\u00a0\t a = 1") := by
  intro d d' bag
  have connector : Reflowed "and a = 1".toList "and\u00a0\t a = 1".toList := by
    have blanks : IsRun ['\u00a0', '\t', ' '] := ((isRun_singleton rfl).cons rfl).cons rfl
    have gap : Reflowed ([' '] ++ "a = 1".toList) (['\u00a0', '\t', ' '] ++ "a = 1".toList) :=
      .run (isRun_singleton rfl) blanks (.refl _)
    exact (Reflowed.refl "and".toList).append gap
  have order : Reflowed "ORDER BY a".toList "ORDER\r\nBY a".toList := by
    have blanks : IsRun ['\r', '\n'] := (isRun_singleton rfl).cons rfl
    have gap : Reflowed ([' '] ++ "BY a".toList) (['\r', '\n'] ++ "BY a".toList) :=
      .run (isRun_singleton rfl) blanks (.refl _)
    exact (Reflowed.refl "ORDER".toList).append gap
  have rows : StatementReformatted (rowsWhere "and a = 1") (rowsWhere "and\u00a0\t a = 1") :=
    ⟨rfl, rfl, .cons (.text (.refl _)) <|
      .cons (.whereBlock (.cons (.isNotNull "a" (.cons (.text connector) .nil)) .nil)) <|
        .cons (.inclusion "order") .nil⟩
  have others : StatementReformatted (rowOrder "ORDER BY a") (rowOrder "ORDER\r\nBY a") :=
    ⟨rfl, rfl, .cons (.text order) .nil⟩
  have reformatted : List.Forall₂ StatementReformatted d.statements d'.statements :=
    .cons rows (.cons others .nil)
  have same := reformatting_irrelevant reformatted "Test" bag
  exact ⟨reformatted, (List.forall₂_cons.mp same).1⟩

end SqlMapper.Query
