/-
Module: SqlMapper.Proofs.InclusionCycles
Purpose: A cycle is reported exactly if inclusions that the bag reaches lead back, and the report
  is the way that they take.
Main exports: InclusionReached, IsCycleReport, isChain_of_reaches, exists_transGen_of_reached,
  cycle_reports_exact
-/
import Mathlib.Data.List.Chain
import SqlMapper.Proofs.ErrorCauses
import SqlMapper.Proofs.InclusionTransparency
import SqlMapper.Proofs.Termination

namespace SqlMapper.Query

open SqlMapper.Document SqlMapper.Parameter
open Relation

/-!
The ids of the chain are the way by which a rendering has come to where it is:
each statement on it was entered through an inclusion that the bag reached in
the statement before. A report adds the id that would be entered again.

In the other direction a statement that was rendered has come back to no
statement, since it would have been on the chain by then.
-/

section

variable {d : SqlMapper.Document} {file : String} {bag : Bag} {s : Statement}

/-- While a statement is rendered, the rendering comes to the inclusion of one id
that stands in the body of the statement with another id. -/
def InclusionReached (d : SqlMapper.Document) (file : String) (bag : Bag) (s : Statement)
    (id refid : String) : Prop :=
  ∃ t, d.statement? id = some t ∧ Selected bag t.body (.inclusion refid)
    ∧ ∃ before rest, Reaches d file bag (.start s) ⟨before ++ [id], .inclusion refid :: rest⟩

/-- The report of a cycle that a statement runs into: the ids that were entered,
from the statement on and each once, and then one of them again. -/
structure IsCycleReport (d : SqlMapper.Document) (file : String) (bag : Bag) (s : Statement)
    (chain : List String) : Prop where
  long : 2 ≤ chain.length
  starts : chain.head? = some s.id
  distinct : chain.dropLast.Nodup
  returns : ∃ again, chain.getLast? = some again ∧ chain.dropLast.count again = 1
  reached : chain.IsChain (InclusionReached d file bag s)

/-! ### The report -/

theorem Trail.head?_eq {last : Statement} {chain : List String}
    (h : Trail d bag s chain last) : chain.head? = some s.id := by
  induction h with
  | start => rfl
  | step _ _ _ _ ih => rw [List.head?_append, ih, Option.some_or]

theorem Trail.getLast?_eq {last : Statement} {chain : List String}
    (h : Trail d bag s chain last) : chain.getLast? = some last.id := by
  cases h with
  | start => rfl
  | step _ _ _ found => rw [List.getLast?_concat, id_of_statement? found]

theorem Trail.mem_statements {last : Statement} {chain : List String}
    (member : s ∈ d.statements) (h : Trail d bag s chain last) : last ∈ d.statements := by
  cases h with
  | start => exact member
  | step _ _ _ found => exact mem_of_statement? found

/-- An inclusion to which a rendering comes is reached in the last statement of its chain. -/
theorem inclusionReached_of_reaches (distinct : d.ids.Nodup) (member : s ∈ d.statements)
    {chain : List String} {refid : String} {rest : List Node}
    (reached : Reaches d file bag (.start s) ⟨chain, .inclusion refid :: rest⟩) :
    ∀ id ∈ chain.getLast?, InclusionReached d file bag s id refid := by
  obtain ⟨last, trail, within⟩ := exists_trail_of_reaches reached
  intro id hid
  obtain rfl : last.id = id := Option.some.inj (trail.getLast?_eq.symm.trans hid)
  refine ⟨last, statement?_id distinct (trail.mem_statements member), ?_, ?_⟩
  · exact within _ (.here List.mem_cons_self)
  · obtain ⟨before, hchain⟩ := List.getLast?_eq_some_iff.mp hid
    rw [hchain] at reached
    exact ⟨before, rest, reached⟩

theorem isChain_concat {α : Type} {R : α → α → Prop} {chain : List α} {next : α}
    (h : chain.IsChain R) (step : ∀ last ∈ chain.getLast?, R last next) :
    (chain ++ [next]).IsChain R := by
  apply h.append (List.isChain_singleton next)
  intro last hlast other hother
  obtain rfl : next = other := Option.some.inj hother
  exact step last hlast

/-- Every statement of the chain was entered through an inclusion that is reached
in the statement before. -/
theorem isChain_of_reaches (distinct : d.ids.Nodup) (member : s ∈ d.statements) {p : Point}
    (reached : Reaches d file bag (.start s) p) :
    p.chain.IsChain (InclusionReached d file bag s) := by
  induction reached with
  | refl => exact List.isChain_singleton s.id
  | tail before leads ih =>
    cases leads with
    | next rendered => exact ih
    | enter entered => exact ih
    | block entered => exact ih
    | inclusion off found =>
      exact isChain_concat ih (inclusionReached_of_reaches distinct member before)

/-- A statement that fails with a cycle reports how it came to it. -/
theorem isCycleReport_of_renderStatement (distinct : d.ids.Nodup) (member : s ∈ d.statements)
    {chain : List String}
    (fails : renderStatement d file bag s = .error (.inclusionCycle chain)) :
    IsCycleReport d file bag s chain := by
  obtain ⟨p, reached, raises⟩ := renderStatement_eq_error_iff.mp fails
  generalize herror : QueryError.inclusionCycle chain = e at raises
  cases raises with
  | refuse refused =>
    subst herror
    rcases refusal_cases refused with ⟨_, _, h⟩ | ⟨_, _, _, h⟩ | ⟨_, _, _, _, h⟩ <;> cases h
  | undefined off missing => cases herror
  | @cycle ids refid rest on =>
    cases herror
    obtain ⟨last, trail, _⟩ := exists_trail_of_reaches reached
    obtain ⟨once, _⟩ := trail.nodup_subset member
    have nonempty : ids.length ≠ 0 := by
      intro empty
      rw [List.length_eq_zero_iff.mp empty] at on
      cases on
    exact {
      long := by
        rw [List.length_append, List.length_singleton]
        omega
      starts := by rw [List.head?_append, trail.head?_eq, Option.some_or]
      distinct := by
        rw [List.dropLast_concat]
        exact once
      returns := by
        refine ⟨refid, List.getLast?_concat, ?_⟩
        rw [List.dropLast_concat]
        exact List.count_eq_one_of_mem once on
      reached := isChain_concat (isChain_of_reaches distinct member reached)
        (inclusionReached_of_reaches distinct member reached) }

/-! ### Without a cycle -/

/-- A statement that is reached from one that was rendered was rendered, too,
while it was on the chain. -/
theorem renderBody_ok_of_reflTransGen {text : List Char}
    (h : renderBody d file bag [s.id] s.body = .ok text) {t : Statement}
    (includes : ReflTransGen (Includes d bag) s t) :
    ∃ chain text, t.id ∈ chain ∧ renderBody d file bag chain t.body = .ok text := by
  induction includes with
  | refl => exact ⟨_, text, List.mem_singleton_self s.id, h⟩
  | tail _ step ih =>
    obtain ⟨chain, text, _, hbody⟩ := ih
    obtain ⟨_, inner, hinner⟩ := renderBody_ok_of_includes hbody step
    exact ⟨_, inner, List.mem_append_right _ (List.mem_singleton_self _), hinner⟩

/-- Nothing that a rendered statement includes, in any number of steps, includes itself. -/
theorem not_transGen_self_of_render {text : List Char}
    (h : renderBody d file bag [s.id] s.body = .ok text) {t : Statement}
    (includes : ReflTransGen (Includes d bag) s t) : ¬ TransGen (Includes d bag) t t := by
  intro cycle
  obtain ⟨chain, inner, on, hbody⟩ := renderBody_ok_of_reflTransGen h includes
  exact id_not_mem_of_transGen hbody cycle on

/-- In a rendered statement an inclusion that is reached leads from a statement
that is included to another one. -/
theorem exists_includes_of_reached (distinct : d.ids.Nodup) (member : s ∈ d.statements)
    {text : List Char} (h : renderBody d file bag [s.id] s.body = .ok text) {id refid : String}
    (reached : InclusionReached d file bag s id refid) :
    ∃ t next, d.statement? id = some t ∧ d.statement? refid = some next
      ∧ ReflTransGen (Includes d bag) s t ∧ Includes d bag t next := by
  obtain ⟨t, found, selected, before, rest, hreached⟩ := reached
  obtain ⟨last, trail, _⟩ := exists_trail_of_reaches hreached
  have same : last.id = id := by
    have := trail.getLast?_eq
    rw [List.getLast?_concat] at this
    exact (Option.some.inj this).symm
  have hlast := statement?_id distinct (trail.mem_statements member)
  rw [same, found] at hlast
  obtain rfl := Option.some.inj hlast
  obtain ⟨chain, inner, _, hbody⟩ := renderBody_ok_of_reflTransGen h trail.reflTransGen
  rw [renderBody_eq] at hbody
  obtain ⟨_, hinner, _⟩ := map_eq_ok_iff.mp hbody
  obtain ⟨included, hincluded⟩ := renderNode_ok_of_selected hinner selected
  rw [renderNode, inclusionText_eq_ok_iff] at hincluded
  obtain ⟨_, next, hnext, _⟩ := hincluded
  exact ⟨t, next, found, hnext, trail.reflTransGen, refid, selected, hnext⟩

/-- In a rendered statement a way along reached inclusions is a way along included statements. -/
theorem exists_transGen_of_reached (distinct : d.ids.Nodup) (member : s ∈ d.statements)
    {text : List Char} (h : renderBody d file bag [s.id] s.body = .ok text) {id refid : String}
    (reached : TransGen (InclusionReached d file bag s) id refid) :
    ∃ t next, d.statement? id = some t ∧ d.statement? refid = some next
      ∧ ReflTransGen (Includes d bag) s t ∧ TransGen (Includes d bag) t next := by
  induction reached with
  | single step =>
    obtain ⟨t, next, found, hnext, includes, last⟩ :=
      exists_includes_of_reached distinct member h step
    exact ⟨t, next, found, hnext, includes, .single last⟩
  | tail _ step ih =>
    obtain ⟨t, via, found, hvia, includes, before⟩ := ih
    obtain ⟨other, next, hother, hnext, _, last⟩ :=
      exists_includes_of_reached distinct member h step
    obtain rfl : via = other := Option.some.inj (hvia.symm.trans hother)
    exact ⟨t, next, found, hnext, includes, before.tail last⟩

theorem not_meetsItself (distinct : d.ids.Nodup) (member : s ∈ d.statements)
    (acyclic : ∀ via, InClosure d s via → ¬ TransGen (MayInclude d) via via) :
    ¬ MeetsItself d s := by
  rintro ⟨via, again, closure, back, same⟩
  have hvia := mem_statements_of_inClosure member closure
  have hagain := mem_statements_of_inClosure hvia back.to_reflTransGen
  obtain rfl : again = via := eq_of_id_eq distinct hagain hvia same
  exact acyclic again closure back

end

/-- Reports of cycles are exact. If a statement fails with a cycle, the report is
the way to it: the ids that were entered, each once and each through an inclusion
that the bag reaches in the statement before, and then one of them again. If
nothing in the closure of the statement includes itself, no bag makes it fail
with a cycle. And if it is rendered, the inclusions reached lead nowhere back. -/
theorem cycle_reports_exact {d : SqlMapper.Document} (distinct : d.ids.Nodup) {s : Statement}
    (member : s ∈ d.statements) (file : String) (bag : Bag) :
    (∀ chain, renderStatement d file bag s = .error (.inclusionCycle chain) →
        IsCycleReport d file bag s chain)
      ∧ ((∀ via, InClosure d s via → ¬ TransGen (MayInclude d) via via) →
        ∀ other chain, renderStatement d file other s ≠ .error (.inclusionCycle chain))
      ∧ ∀ sql, renderStatement d file bag s = .ok sql →
        ∀ id, ¬ TransGen (InclusionReached d file bag s) id id := by
  refine ⟨?report, ?acyclic, ?rendered⟩
  case report =>
    intro chain fails
    exact isCycleReport_of_renderStatement distinct member fails
  case acyclic =>
    intro acyclic other chain fails
    have cause := staticCause_of_renderStatement member fails
    exact not_meetsItself distinct member acyclic cause
  case rendered =>
    intro sql rendered id cycle
    obtain ⟨text, hbody, _⟩ := map_eq_ok_iff.mp rendered
    obtain ⟨t, next, found, hnext, includes, back⟩ :=
      exists_transGen_of_reached distinct member hbody cycle
    obtain rfl : t = next := Option.some.inj (found.symm.trans hnext)
    exact not_transGen_self_of_render hbody includes back

private def rangeOfRows : Statement :=
  ⟨"sql", "range", [.text "b > 1 ", .inclusion "filter"]⟩

private def filterByRange : Statement :=
  ⟨"sql", "filter", [.ifTest "ranged == yes" [.inclusion "range"], .text "a = 1"]⟩

private def filteredRows : Statement :=
  ⟨"select", "rows", [.text "SELECT * FROM t ", .whereBlock [.inclusion "filter"]]⟩

/-- A cycle into which a statement leads that is not on it, for the bag that selects it. -/
theorem cycle_reports_exact_behind :
    let d : SqlMapper.Document := ⟨[filteredRows, filterByRange, rangeOfRows]⟩
    let bag : Bag := fun name => if name = "ranged" then some "yes" else none
    d.ids.Nodup ∧ filteredRows ∈ d.statements
      ∧ renderStatement d "Test" bag filteredRows
        = .error (.inclusionCycle ["rows", "filter", "range", "filter"])
      ∧ IsCycleReport d "Test" bag filteredRows ["rows", "filter", "range", "filter"] := by
  intro d bag
  have distinct : d.ids.Nodup := by decide
  have member : filteredRows ∈ d.statements := List.mem_cons_self
  have reached : Reaches d "Test" bag (.start filteredRows)
      ⟨["rows", "filter", "range"], [.inclusion "filter"]⟩ :=
    .head (.next rfl) <| .head (.block rfl) <| .head (.inclusion (by decide) rfl) <|
      .head (.enter rfl) <| .head (.inclusion (by decide) rfl) <| .single (.next rfl)
  have fails : renderStatement d "Test" bag filteredRows
      = .error (.inclusionCycle ["rows", "filter", "range", "filter"]) :=
    renderStatement_eq_error_iff.mpr ⟨_, reached, .cycle (by decide)⟩
  exact ⟨distinct, member, fails, (cycle_reports_exact distinct member "Test" bag).1 _ fails⟩

end SqlMapper.Query
