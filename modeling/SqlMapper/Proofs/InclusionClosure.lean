/-
Module: SqlMapper.Proofs.InclusionClosure
Purpose: What a document shows of a rendering before it is known for which bag: the statements
  that may be included, and the nodes and tests that may be met.
Main exports: MayInclude, InClosure, StandsIn, nodeTests, TestStandsIn, MeetsItself,
  exists_standsIn_of_reaches
-/
import SqlMapper.Proofs.Course

namespace SqlMapper

open SqlMapper.Document SqlMapper.Markup SqlMapper.Parameter SqlMapper.Query
open Relation

/-!
The scans of a document walk through all branches of a body, while a rendering
takes only those that the bag selects and goes on into other statements. The
closure of a statement joins the two views: whatever a rendering comes to, for
any bag, stands somewhere in the closure, in a statement that the scans walk
through.
-/

namespace Document

/-- A statement may include another one, whatever is selected. -/
def MayInclude (d : SqlMapper.Document) (s next : Statement) : Prop :=
  ∃ refid, .inclusion refid ∈ walkAll s.body ∧ d.statement? refid = some next

/-- The statements that a statement may include in any number of steps, itself among them. -/
abbrev InClosure (d : SqlMapper.Document) : Statement → Statement → Prop :=
  ReflTransGen (MayInclude d)

/-- A node stands in the closure of a statement, in whatever branch. -/
def StandsIn (d : SqlMapper.Document) (s : Statement) (node : Node) : Prop :=
  ∃ via, InClosure d s via ∧ node ∈ walkAll via.body

/-- The tests that a node asks itself. -/
def nodeTests : Node → List String
  | .ifTest test _ => [test]
  | .choose whens _ => whens.map (·.test)
  | _ => []

/-- A test stands in the closure of a statement, in whatever branch. -/
def TestStandsIn (d : SqlMapper.Document) (s : Statement) (test : String) : Prop :=
  ∃ node, StandsIn d s node ∧ test ∈ nodeTests node

/-- Somewhere in the closure of a statement inclusions lead back to an id that
they come from. -/
def MeetsItself (d : SqlMapper.Document) (s : Statement) : Prop :=
  ∃ via again, InClosure d s via ∧ TransGen (MayInclude d) via again ∧ again.id = via.id

/-! ### What is selected stands in the closure -/

section

variable {d : SqlMapper.Document}

theorem mayInclude_of_includes {bag : Bag} {s next : Statement} (h : Includes d bag s next) :
    MayInclude d s next := by
  obtain ⟨refid, selected, found⟩ := h
  exact ⟨refid, selected.mem_walkAll, found⟩

theorem inClosure_of_includes {bag : Bag} {s via : Statement}
    (h : ReflTransGen (Includes d bag) s via) : InClosure d s via :=
  ReflTransGen.mono (fun _ _ => mayInclude_of_includes) s via h

/-- The statements of a closure are statements of the document. -/
theorem mem_statements_of_inClosure {s via : Statement} (member : s ∈ d.statements)
    (h : InClosure d s via) : via ∈ d.statements := by
  cases h with
  | refl => exact member
  | tail _ step =>
    obtain ⟨_, _, found⟩ := step
    exact mem_of_statement? found

/-- A node at which a rendering is stands in the closure, in the statement at
which the trail of the rendering ends. -/
theorem exists_standsIn_of_reaches {file : String} {bag : Bag} {s : Statement}
    {chain : List String} {node : Node} {rest : List Node}
    (h : Reaches d file bag (.start s) ⟨chain, node :: rest⟩) :
    ∃ last, Trail d bag s chain last ∧ InClosure d s last ∧ node ∈ walkAll last.body := by
  obtain ⟨last, trail, within⟩ := exists_trail_of_reaches h
  exact ⟨last, trail, inClosure_of_includes trail.reflTransGen,
    (within node (.here List.mem_cons_self)).mem_walkAll⟩

/-- If a rendering comes to the inclusion of an id of its chain, the closure
leads back to an id. -/
theorem meetsItself_of_reaches {file : String} {bag : Bag} {s : Statement}
    (member : s ∈ d.statements) {chain : List String} {refid : String} {rest : List Node}
    (h : Reaches d file bag (.start s) ⟨chain, .inclusion refid :: rest⟩) (on : refid ∈ chain) :
    MeetsItself d s := by
  obtain ⟨last, trail, _, walked⟩ := exists_standsIn_of_reaches h
  obtain ⟨via, hid, before, after⟩ := trail.exists_of_mem on
  have closure : InClosure d s via := inClosure_of_includes before
  obtain ⟨again, found⟩ := exists_statement?_of_mem (mem_statements_of_inClosure member closure)
  rw [hid] at found
  have back : TransGen (MayInclude d) via again :=
    .tail' (inClosure_of_includes after) ⟨refid, walked, found⟩
  exact ⟨via, again, closure, back, (id_of_statement? found).trans hid.symm⟩

end

end Document

end SqlMapper
