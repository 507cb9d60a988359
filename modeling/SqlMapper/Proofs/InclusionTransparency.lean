/-
Module: SqlMapper.Proofs.InclusionTransparency
Purpose: An inclusion gives what the included statement gives by itself, wherever it stands.
Main exports: id_not_mem_of_transGen, renderBody_ok_of_avoids, inclusion_transparent
-/
import SqlMapper.Proofs.InclusionClosure

namespace SqlMapper.Query

open SqlMapper.Document SqlMapper.Parameter SqlMapper.Text
open Relation

/-!
What an inclusion gives depends on the chain only through cycles. A body that
was rendered includes, in whatever number of steps, no statement of its chain;
so its text is the same under any other chain that these statements avoid. A
cycle through an outer statement of the chain would lead back to the inclusion,
and then the included statement could not be rendered by itself either.
-/

section

variable {d : SqlMapper.Document} {file : String} {bag : Bag}

/-- A statement that can be rendered includes none of its chain, and what it
includes can be rendered, too. -/
theorem renderBody_ok_of_includes {chain : List String} {s next : Statement} {text : List Char}
    (h : renderBody d file bag chain s.body = .ok text) (includes : Includes d bag s next) :
    next.id ∉ chain
      ∧ ∃ text, renderBody d file bag (chain ++ [next.id]) next.body = .ok text := by
  obtain ⟨refid, selected, found⟩ := includes
  rw [renderBody_eq] at h
  obtain ⟨inner, hinner, _⟩ := map_eq_ok_iff.mp h
  obtain ⟨included, hincluded⟩ := renderNode_ok_of_selected hinner selected
  rw [renderNode, inclusionText_eq_ok_iff] at hincluded
  obtain ⟨off, other, hother, hbody⟩ := hincluded
  obtain rfl : next = other := Option.some.inj (found.symm.trans hother)
  obtain rfl := id_of_statement? found
  exact ⟨off, included, hbody⟩

/-- A statement that can be rendered includes none of its chain in any number of steps. -/
theorem id_not_mem_of_transGen {chain : List String} {s next : Statement} {text : List Char}
    (h : renderBody d file bag chain s.body = .ok text)
    (includes : TransGen (Includes d bag) s next) : next.id ∉ chain := by
  induction includes using TransGen.head_induction_on generalizing chain text with
  | single step => exact (renderBody_ok_of_includes h step).1
  | head step _ ih =>
    intro member
    obtain ⟨_, inner, hinner⟩ := renderBody_ok_of_includes h step
    apply ih hinner
    exact List.mem_append_left _ member

/-- The text of a statement is the same under every chain that the statement
includes nothing of. -/
theorem renderBody_ok_of_avoids {chain chain' : List String} {s : Statement} {text : List Char}
    (h : renderBody d file bag chain s.body = .ok text)
    (avoids : ∀ next, TransGen (Includes d bag) s next → next.id ∉ chain') :
    renderBody d file bag chain' s.body = .ok text := by
  generalize hbody : s.body = body at h
  induction chain, body using renderBody.induct d file bag generalizing chain' s text with
  | case1 chain body ih =>
    subst hbody
    rw [renderBody_eq] at h ⊢
    obtain ⟨inner, hinner, htext⟩ := map_eq_ok_iff.mp h
    refine map_eq_ok_iff.mpr ⟨inner, renderNodes_ok_mono ?_ hinner, htext⟩
    intro refid selected text ok
    obtain ⟨off, next, found, hnext⟩ := inclusionText_eq_ok_iff.mp ok
    have step : Includes d bag s next := ⟨refid, selected, found⟩
    have hid : next.id = refid := id_of_statement? found
    have off' : refid ∉ chain' := hid ▸ avoids next (.single step)
    refine inclusionText_eq_ok_iff.mpr ⟨off', next, found, ?_⟩
    apply ih refid off next found _ rfl hnext
    intro later includes member
    rcases List.mem_append.mp member with earlier | newest
    · apply avoids later _ earlier
      exact .head step includes
    · exact id_not_mem_of_transGen hnext includes (List.mem_append_right _ newest)

/-- A statement that can be rendered by itself includes nothing of the chain on
which its inclusion stands: that would close a cycle through the statement. -/
theorem avoids_of_reaches (distinct : d.ids.Nodup) {s r : Statement} (member : s ∈ d.statements)
    {chain : List String} {refid : String} {rest : List Node}
    (reached : Reaches d file bag (.start s) ⟨chain, .inclusion refid :: rest⟩)
    (found : d.statement? refid = some r) {text : List Char}
    (alone : renderBody d file bag [r.id] r.body = .ok text) (next : Statement)
    (includes : TransGen (Includes d bag) r next) : next.id ∉ chain := by
  intro outer
  obtain ⟨last, trail, within⟩ := exists_trail_of_reaches reached
  obtain ⟨via, hid, before, after⟩ := trail.exists_of_mem outer
  have step : Includes d bag last r := ⟨refid, within _ (.here List.mem_cons_self), found⟩
  have hnext : next ∈ d.statements :=
    mem_statements_of_inClosure (mem_of_statement? found)
      (inClosure_of_includes includes.to_reflTransGen)
  obtain rfl : via = next :=
    eq_of_id_eq distinct (mem_statements_of_inClosure member (inClosure_of_includes before)) hnext
      hid
  have cycle : TransGen (Includes d bag) r r := (includes.trans_left after).tail step
  exact id_not_mem_of_transGen alone cycle (List.mem_singleton.mpr rfl)

/-- A point that is rendered reaches no point at which an error is raised. -/
theorem not_raises_of_render_ok {p q : Point} {text : List Char}
    (h : p.render d file bag = .ok text) (reached : Reaches d file bag p q) (e : QueryError) :
    ¬ Raises d file bag q e := by
  intro raises
  have := render_eq_error_iff.mpr ⟨q, reached, raises⟩
  rw [h] at this
  cases this

end

/-- Inclusions are transparent. Wherever the rendering of a statement comes to the
inclusion of a statement that is defined and not being rendered, the inclusion
gives a text exactly if the included statement gives that text by itself; and if
it can be rendered by itself, no cycle is met while it is rendered in its place. -/
theorem inclusion_transparent {d : SqlMapper.Document} (distinct : d.ids.Nodup) {s : Statement}
    (member : s ∈ d.statements) {file : String} {bag : Bag} {chain : List String}
    {refid : String} {rest : List Node} {r : Statement}
    (reached : Reaches d file bag (.start s) ⟨chain, .inclusion refid :: rest⟩)
    (off : refid ∉ chain) (found : d.statement? refid = some r) (sql : String) :
    (inclusionText d file bag chain refid).map String.ofList
        = ((Session.mk d file bag chain).render r).1
      ∧ (((Session.mk d file bag chain).render r).1 = .ok sql
        ↔ ((Session.start d file bag).render r).1 = .ok sql)
      ∧ (((Session.start d file bag).render r).1 = .ok sql →
        ∀ p ids, Reaches d file bag ⟨chain ++ [refid], r.body⟩ p →
          ¬ Raises d file bag p (.inclusionCycle ids)) := by
  obtain rfl := id_of_statement? found
  have inContext : ((Session.mk d file bag chain).render r).1
      = (renderBody d file bag (chain ++ [r.id]) r.body).map String.ofList := rfl
  have byItself : ((Session.start d file bag).render r).1
      = (renderBody d file bag [r.id] r.body).map String.ofList := rfl
  have inward : ∀ {text}, renderBody d file bag [r.id] r.body = .ok text →
      renderBody d file bag (chain ++ [r.id]) r.body = .ok text := by
    intro text alone
    apply renderBody_ok_of_avoids alone
    intro next includes member'
    rcases List.mem_append.mp member' with outer | own
    · exact avoids_of_reaches distinct member reached found alone next includes outer
    · exact id_not_mem_of_transGen alone includes own
  have outward : ∀ {text}, renderBody d file bag (chain ++ [r.id]) r.body = .ok text →
      renderBody d file bag [r.id] r.body = .ok text := by
    intro text ok
    apply renderBody_ok_of_avoids ok
    intro next includes own
    exact id_not_mem_of_transGen ok includes (List.mem_append_right _ own)
  refine ⟨?inPlace, ?alike, ?noCycle⟩
  case inPlace => rw [inclusionText_of_found off found, inContext]
  case alike =>
    rw [inContext, byItself, map_eq_ok_iff, map_eq_ok_iff]
    constructor
    · rintro ⟨text, ok, hsql⟩
      exact ⟨text, outward ok, hsql⟩
    · rintro ⟨text, ok, hsql⟩
      exact ⟨text, inward ok, hsql⟩
  case noCycle =>
    intro ok p ids reaches
    rw [byItself, map_eq_ok_iff] at ok
    obtain ⟨text, alone, _⟩ := ok
    obtain ⟨inner, hinner, _⟩ := map_eq_ok_iff.mp ((renderBody_eq ..).symm.trans (inward alone))
    exact not_raises_of_render_ok (p := ⟨chain ++ [r.id], r.body⟩) hinner reaches _

private def nameColumns : Statement := ⟨"sql", "columns", [.text "name"]⟩

private def nameFilter : Statement := ⟨"sql", "filter", [.text "and ", .inclusion "columns"]⟩

private def namePage : Statement :=
  ⟨"select", "page", [.text "SELECT ",
    .whereBlock [.isNotNull "name" [.inclusion "filter"]], .inclusion "columns"]⟩

/-- A statement that is included twice, the first time inside another inclusion. -/
theorem inclusion_transparent_diamond :
    let d : SqlMapper.Document := ⟨[namePage, nameFilter, nameColumns]⟩
    let bag : Bag := fun name => if name = "name" then some "x" else none
    Reaches d "Test" bag (.start namePage) ⟨["page", "filter"], [.inclusion "columns"]⟩
      ∧ (((Session.mk d "Test" bag ["page", "filter"]).render nameColumns).1 = .ok "name"
        ↔ ((Session.start d "Test" bag).render nameColumns).1 = .ok "name") := by
  intro d bag
  have reached : Reaches d "Test" bag (.start namePage) ⟨["page", "filter"], [.inclusion "columns"]⟩ :=
    .head (.next rfl) <| .head (.block rfl) <| .head (.enter rfl) <|
      .head (.inclusion (by decide) rfl) <| .single (.next rfl)
  exact ⟨reached, (inclusion_transparent (by decide) List.mem_cons_self reached (by decide) rfl
    "name").2.1⟩

end SqlMapper.Query
