/-
Module: SqlMapper.Proofs.ClauseSetting
Purpose: The clause of a block is in the SQL of its statement, whole and, unless an inclusion is
  written without a blank beside it, set off from the words around it.
Main exports: Place, LeadsApart, LeadsApart.infix_words, Leads.infix_text, exists_place_of_reaches,
  clause_set_off
-/
import Mathlib.Logic.Relation
import SqlMapper.Proofs.ClauseWords
import SqlMapper.Proofs.Course

namespace SqlMapper.Query

open SqlMapper.Document SqlMapper.Parameter SqlMapper.Text
open Relation

/-!
A block is written with a space on both sides, which keeps its clause apart from
the text around it, and a block around it keeps those spaces between words. An
inclusion does not: it gives the flattened text of a statement, without blanks at
the ends, so that a clause at an end of the included statement grows together
with the text beside the inclusion. Only there can it happen: the clause is never
broken up, and it is set off if each inclusion on the way to it is.
-/

section

variable {d : SqlMapper.Document} {file : String} {bag : Bag}

/-! ### What is reached is part of the text -/

/-- What a rendered point leads to is rendered, too, and a flattened text that
starts as the keyword does passes from its text to that of the point. -/
theorem Leads.infix_text {p q : Point} (h : Leads d file bag p q) {text : List Char}
    (ok : p.render d file bag = .ok text) :
    ∃ inner, q.render d file bag = .ok inner
      ∧ ∀ part, flattenChars part = part → part.head? = some 'W' → part <:+: inner →
        part <:+: text := by
  cases h with
  | next rendered =>
    obtain ⟨first, later, _, hlater, rfl⟩ := renderNodes_cons_eq_ok_iff.mp ok
    refine ⟨later, hlater, ?_⟩
    intro part _ _ inside
    exact List.infix_append_of_infix_right inside
  | enter entered =>
    obtain ⟨first, later, hfirst, _, rfl⟩ := renderNodes_cons_eq_ok_iff.mp ok
    rw [renderNode_eq_perform, entered] at hfirst
    refine ⟨first, hfirst, ?_⟩
    intro part _ _ inside
    exact List.infix_append_of_infix_left inside
  | block entered =>
    obtain ⟨first, later, hfirst, _, rfl⟩ := renderNodes_cons_eq_ok_iff.mp ok
    rw [renderNode_eq_perform, entered] at hfirst
    obtain ⟨inner, hinner, rfl⟩ := map_eq_ok_iff.mp hfirst
    refine ⟨inner, hinner, ?_⟩
    intro part flat starts inside
    exact List.infix_append_of_infix_left (infix_blockText flat starts inside)
  | inclusion off found =>
    obtain ⟨first, later, hfirst, _, rfl⟩ := renderNodes_cons_eq_ok_iff.mp ok
    rw [renderNode, inclusionText_of_found off found, renderBody_eq] at hfirst
    obtain ⟨inner, hinner, rfl⟩ := map_eq_ok_iff.mp hfirst
    refine ⟨inner, hinner, ?_⟩
    intro part flat _ inside
    exact List.infix_append_of_infix_left (infix_flattenChars flat inside)

/-- The same along a whole way. -/
theorem Reaches.infix_text {p q : Point} (h : Reaches d file bag p q) {text : List Char}
    (ok : p.render d file bag = .ok text) :
    ∃ inner, q.render d file bag = .ok inner
      ∧ ∀ part, flattenChars part = part → part.head? = some 'W' → part <:+: inner →
        part <:+: text := by
  induction h using ReflTransGen.head_induction_on generalizing text with
  | refl => exact ⟨text, ok, fun _ _ _ inside => inside⟩
  | head leads _ ih =>
    obtain ⟨between, hbetween, outward⟩ := leads.infix_text ok
    obtain ⟨inner, hinner, inward⟩ := ih hbetween
    refine ⟨inner, hinner, ?_⟩
    intro part flat starts inside
    exact outward part flat starts (inward part flat starts inside)

/-! ### Places -/

/-- A point of a rendering in the text that is being put together there: what is
written before it, and what will be written behind the nodes of the point. -/
structure Place where
  before : List Char
  point : Point
  after : List Char
deriving Repr, Inhabited

/-- The place at which the rendering of a statement starts. -/
def Place.start (s : Statement) : Place := ⟨[], .start s, []⟩

/-- The text that is being put together at a place. -/
def Place.text (d : SqlMapper.Document) (file : String) (bag : Bag) (p : Place) :
    Except QueryError (List Char) :=
  (p.point.render d file bag).map (p.before ++ · ++ p.after)

/-- What a rendering goes on with at a place, where an inclusion is entered only
if its text is set off: no word of it grows together with a word beside it. -/
inductive LeadsApart (d : SqlMapper.Document) (file : String) (bag : Bag) :
    Place → Place → Prop where
  | next {before after text : List Char} {chain : List String} {node : Node} {rest : List Node}
      (rendered : renderNode bag (inclusionText d file bag chain) node = .ok text) :
      LeadsApart d file bag ⟨before, ⟨chain, node :: rest⟩, after⟩
        ⟨before ++ text, ⟨chain, rest⟩, after⟩
  | enter {before after later : List Char} {chain : List String} {node : Node}
      {rest nodes : List Node} (entered : action bag node = .enter nodes)
      (behind : renderNodes bag (inclusionText d file bag chain) rest = .ok later) :
      LeadsApart d file bag ⟨before, ⟨chain, node :: rest⟩, after⟩
        ⟨before, ⟨chain, nodes⟩, later ++ after⟩
  | block {before after : List Char} {chain : List String} {node : Node} {rest nodes : List Node}
      (entered : action bag node = .block nodes) :
      LeadsApart d file bag ⟨before, ⟨chain, node :: rest⟩, after⟩ ⟨[], ⟨chain, nodes⟩, []⟩
  | inclusion {before after text later : List Char} {chain : List String} {refid : String}
      {rest : List Node} {s : Statement} (off : refid ∉ chain)
      (found : d.statement? refid = some s)
      (rendered : renderBody d file bag (chain ++ [refid]) s.body = .ok text)
      (behind : renderNodes bag (inclusionText d file bag chain) rest = .ok later)
      (fromBefore : parted before text = true) (fromAfter : parted text (later ++ after) = true) :
      LeadsApart d file bag ⟨before, ⟨chain, .inclusion refid :: rest⟩, after⟩
        ⟨[], ⟨chain ++ [refid], s.body⟩, []⟩

/-- A rendering that is at one place comes to another, with every inclusion on the way set off. -/
abbrev ReachesApart (d : SqlMapper.Document) (file : String) (bag : Bag) : Place → Place → Prop :=
  ReflTransGen (LeadsApart d file bag)

/-- Words of a text that is parted from what stands on either side are words of the whole. -/
theorem infix_words_of_parted {part : List (List Char)} {before text after : List Char}
    (fromBefore : parted before text = true) (fromAfter : parted text after = true)
    (h : part <:+: words text) : part <:+: words (before ++ (text ++ after)) := by
  cases text with
  | nil =>
    rw [words_nil, List.infix_nil] at h
    rw [h]
    exact List.nil_infix
  | cons c text =>
    have fromRest : parted before (c :: text ++ after) = true := fromBefore
    rw [words_append_of_parted fromRest, words_append_of_parted fromAfter]
    exact List.infix_append_of_infix_right (List.infix_append_of_infix_left h)

/-- Words that start with the keyword pass from a place to where it was come from. -/
theorem LeadsApart.infix_words {p q : Place} (h : LeadsApart d file bag p q) {text : List Char}
    (ok : p.text d file bag = .ok text) :
    ∃ inner, q.text d file bag = .ok inner
      ∧ ∀ part : List (List Char), part.head? = some keyword → part <:+: words inner →
        part <:+: words text := by
  obtain ⟨whole, hwhole, rfl⟩ := map_eq_ok_iff.mp ok
  cases h with
  | @next before after text chain node rest rendered =>
    obtain ⟨first, later, hfirst, hlater, rfl⟩ := renderNodes_cons_eq_ok_iff.mp hwhole
    obtain rfl : text = first := Except.ok.inj (rendered.symm.trans hfirst)
    refine ⟨_, map_eq_ok_iff.mpr ⟨later, hlater, rfl⟩, ?_⟩
    intro part _ inside
    simpa only [List.append_assoc] using inside
  | @enter before after later chain node rest nodes entered behind =>
    obtain ⟨first, other, hfirst, hother, rfl⟩ := renderNodes_cons_eq_ok_iff.mp hwhole
    obtain rfl : later = other := Except.ok.inj (behind.symm.trans hother)
    rw [renderNode_eq_perform, entered] at hfirst
    refine ⟨_, map_eq_ok_iff.mpr ⟨first, hfirst, rfl⟩, ?_⟩
    intro part _ inside
    simpa only [List.append_assoc] using inside
  | @block before after chain node rest nodes entered =>
    obtain ⟨first, later, hfirst, hlater, rfl⟩ := renderNodes_cons_eq_ok_iff.mp hwhole
    rw [renderNode_eq_perform, entered] at hfirst
    obtain ⟨inner, hinner, rfl⟩ := map_eq_ok_iff.mp hfirst
    refine ⟨_, map_eq_ok_iff.mpr ⟨inner, hinner, rfl⟩, ?_⟩
    intro part starts inside
    rw [List.nil_append, List.append_nil] at inside
    rw [List.append_assoc, List.append_assoc]
    exact infix_words_of_parted (parted_blockText_right before inner)
      (parted_blockText_left inner (later ++ after)) (infix_words_blockText starts inside)
  | @inclusion before after text later chain refid rest s off found rendered behind fromBefore
      fromAfter =>
    obtain ⟨first, other, hfirst, hother, rfl⟩ := renderNodes_cons_eq_ok_iff.mp hwhole
    obtain rfl : later = other := Except.ok.inj (behind.symm.trans hother)
    rw [renderNode, inclusionText_of_found off found, rendered] at hfirst
    cases hfirst
    rw [renderBody_eq] at rendered
    obtain ⟨inner, hinner, rfl⟩ := map_eq_ok_iff.mp rendered
    refine ⟨_, map_eq_ok_iff.mpr ⟨inner, hinner, rfl⟩, ?_⟩
    intro part _ inside
    rw [List.nil_append, List.append_nil, ← words_flattenChars] at inside
    rw [List.append_assoc, List.append_assoc]
    exact infix_words_of_parted fromBefore fromAfter inside

/-- The same along a whole way. -/
theorem ReachesApart.infix_words {p q : Place} (h : ReachesApart d file bag p q)
    {text : List Char} (ok : p.text d file bag = .ok text) :
    ∃ inner, q.text d file bag = .ok inner
      ∧ ∀ part : List (List Char), part.head? = some keyword → part <:+: words inner →
        part <:+: words text := by
  induction h using ReflTransGen.head_induction_on generalizing text with
  | refl => exact ⟨text, ok, fun _ _ inside => inside⟩
  | head leads _ ih =>
    obtain ⟨between, hbetween, outward⟩ := leads.infix_words ok
    obtain ⟨inner, hinner, inward⟩ := ih hbetween
    refine ⟨inner, hinner, ?_⟩
    intro part starts inside
    exact outward part starts (inward part starts inside)

/-- To what stands in a statement itself, and in none that it includes, there is a
way without an inclusion. -/
theorem exists_place_of_reaches {s : Statement} {text : List Char}
    (ok : (Point.start s).render d file bag = .ok text) {p : Point}
    (h : Reaches d file bag (.start s) p) :
    p.chain ≠ [] ∧ (p.chain = [s.id] →
      ∃ before after, ReachesApart d file bag (.start s) ⟨before, p, after⟩) := by
  induction h with
  | refl => exact ⟨List.cons_ne_nil s.id [], fun _ => ⟨[], [], .refl⟩⟩
  | tail before leads ih =>
    obtain ⟨nonempty, ih⟩ := ih
    obtain ⟨whole, hwhole, _⟩ := Reaches.infix_text before ok
    cases leads with
    | next rendered =>
      refine ⟨nonempty, ?_⟩
      intro own
      obtain ⟨written, after, apart⟩ := ih own
      exact ⟨_, after, apart.tail (.next rendered)⟩
    | enter entered =>
      refine ⟨nonempty, ?_⟩
      intro own
      obtain ⟨written, after, apart⟩ := ih own
      obtain ⟨_, later, _, behind, _⟩ := renderNodes_cons_eq_ok_iff.mp hwhole
      exact ⟨written, later ++ after, apart.tail (.enter entered behind)⟩
    | block entered =>
      refine ⟨nonempty, ?_⟩
      intro own
      obtain ⟨written, after, apart⟩ := ih own
      exact ⟨[], [], apart.tail (.block entered)⟩
    | inclusion off found =>
      refine ⟨List.append_ne_nil_of_right_ne_nil _ (List.cons_ne_nil _ []), ?_⟩
      intro own
      exact absurd (List.append_eq_singleton_iff.mp own) (by simp [nonempty])

/-- The text of a point at a block has the block's text in front. -/
theorem render_whereBlock {chain : List String} {children rest : List Node}
    {content text : List Char}
    (holds : renderNodes bag (inclusionText d file bag chain) children = .ok content)
    (ok : (Point.mk chain (.whereBlock children :: rest)).render d file bag = .ok text) :
    ∃ later, text = blockText content ++ later := by
  obtain ⟨first, later, hfirst, _, rfl⟩ := renderNodes_cons_eq_ok_iff.mp ok
  rw [renderNode, holds] at hfirst
  cases hfirst
  exact ⟨later, rfl⟩

end

/-- The clause of a block that a rendering comes to is in the SQL in one piece,
and if the block stands in the statement itself, or each inclusion on the way to
it is set off, the words of the clause are words of the SQL. -/
theorem clause_set_off {d : SqlMapper.Document} {file : String} {bag : Bag} {s : Statement}
    {sql : String} (rendered : renderStatement d file bag s = .ok sql) {chain : List String}
    {children rest : List Node}
    (reached : Reaches d file bag (.start s) ⟨chain, .whereBlock children :: rest⟩)
    {content clause : List Char}
    (holds : renderNodes bag (inclusionText d file bag chain) children = .ok content)
    (emits : clause? content = some clause) :
    clause <:+: sql.toList
      ∧ ((chain = [s.id] ∨ ∃ before after, ReachesApart d file bag (.start s)
          ⟨before, ⟨chain, .whereBlock children :: rest⟩, after⟩) →
        words clause <:+: words sql.toList) := by
  obtain ⟨body, hbody, rfl⟩ := map_eq_ok_iff.mp rendered
  rw [renderBody_eq] at hbody
  obtain ⟨whole, hwhole, rfl⟩ := map_eq_ok_iff.mp hbody
  obtain ⟨sameWords, flat⟩ := clause_flat emits
  rw [String.toList_ofList]
  constructor
  · obtain ⟨text, htext, outward⟩ := Reaches.infix_text reached hwhole
    obtain ⟨later, rfl⟩ := render_whereBlock holds htext
    apply infix_flattenChars flat
    apply outward clause flat (head?_clause emits)
    apply List.infix_append_of_infix_left
    rw [blockText, emits]
    exact ⟨[' '], [' '], rfl⟩
  · intro way
    obtain ⟨before, after, apart⟩ : ∃ before after, ReachesApart d file bag (.start s)
        ⟨before, ⟨chain, .whereBlock children :: rest⟩, after⟩ := by
      rcases way with own | way
      · exact (exists_place_of_reaches hwhole reached).2 own
      · exact way
    obtain ⟨text, htext, outward⟩ := apart.infix_words (map_eq_ok_iff.mpr ⟨whole, hwhole, rfl⟩)
    obtain ⟨inner, hinner, rfl⟩ := map_eq_ok_iff.mp htext
    obtain ⟨later, rfl⟩ := render_whereBlock holds hinner
    have starts : (words clause).head? = some keyword := by
      rw [sameWords, clauseWords, List.head?_cons]
    have inside : words clause <:+: words (blockText content) := by
      rw [words_blockText, if_neg (clause?_eq_some_iff.mp emits).1, sameWords]
    have outside : words clause <:+: words (before ++ (blockText content ++ later) ++ after) := by
      rw [List.append_assoc, List.append_assoc]
      exact infix_words_of_parted (parted_blockText_right before content)
        (parted_blockText_left content (later ++ after)) inside
    have reachedTop := outward (words clause) starts outside
    rw [words_flattenChars]
    simpa only [Place.start, List.nil_append, List.append_nil] using reachedTop

private def filteredByA : Statement := ⟨"sql", "filter", [.whereBlock [.text "and a = 1"]]⟩

private theorem renderBody_filteredByA (d : SqlMapper.Document) (file : String) (bag : Bag)
    (chain : List String) :
    renderBody d file bag chain filteredByA.body = .ok "WHERE a = 1".toList := by
  rw [renderBody_eq]
  rfl

private def rowsAround (front back : String) : Statement :=
  ⟨"select", "rows", [.text front, .inclusion "filter", .text back]⟩

private def rowsDocument (front back : String) : SqlMapper.Document :=
  ⟨[rowsAround front back, filteredByA]⟩

private theorem renderStatement_rowsAround (front back : String) (bag : Bag) :
    renderStatement (rowsDocument front back) "Test" bag (rowsAround front back)
      = .ok (String.ofList (flattenChars
        (front.toList ++ ("WHERE a = 1".toList ++ (back.toList ++ []))))) := by
  have included : inclusionText (rowsDocument front back) "Test" bag ["rows"] "filter"
      = .ok "WHERE a = 1".toList := by
    rw [inclusionText_of_found (by decide) rfl, renderBody_filteredByA]
  have nodes : renderNodes bag (inclusionText (rowsDocument front back) "Test" bag ["rows"])
        [.text front, .inclusion "filter", .text back]
      = .ok (front.toList ++ ("WHERE a = 1".toList ++ (back.toList ++ []))) := by
    simp only [renderNodes, renderNode, included]
    rfl
  rw [renderStatement, renderBody_eq]
  exact congrArg (fun text => (text.map flattenChars).map String.ofList) nodes

private theorem filter_off : "filter" ∉ ["rows"] := by decide

/-- A clause of an included statement that has a blank on either side of its inclusion. -/
theorem clause_set_off_included :
    let d := rowsDocument "SELECT * FROM t\n" " ORDER BY a"
    let s := rowsAround "SELECT * FROM t\n" " ORDER BY a"
    let bag : Bag := fun _ => none
    renderStatement d "Test" bag s = .ok "SELECT * FROM t WHERE a = 1 ORDER BY a"
      ∧ words "WHERE a = 1".toList
        <:+: words "SELECT * FROM t WHERE a = 1 ORDER BY a".toList := by
  intro d s bag
  have rendered : renderStatement d "Test" bag s
      = .ok "SELECT * FROM t WHERE a = 1 ORDER BY a" := by
    rw [renderStatement_rowsAround]
    rfl
  have body := renderBody_filteredByA d "Test" bag ["rows", "filter"]
  have reached : Reaches d "Test" bag (.start s)
      ⟨["rows", "filter"], [.whereBlock [.text "and a = 1"]]⟩ :=
    .head (.next rfl) <| .single (.inclusion (s := filteredByA) filter_off rfl)
  have apart : ReachesApart d "Test" bag (.start s)
      ⟨[], ⟨["rows", "filter"], [.whereBlock [.text "and a = 1"]]⟩, []⟩ :=
    .head (.next rfl) <| .single <|
      .inclusion (s := filteredByA) filter_off rfl body rfl (by decide) (by decide)
  exact ⟨rendered, (clause_set_off rendered reached rfl rfl).2 (.inr ⟨[], [], apart⟩)⟩

/-- Without a blank beside the inclusion, neither end of the clause is set off. -/
theorem clause_not_set_off_included :
    let d := rowsDocument "SELECT * FROM t" "ORDER BY a"
    let s := rowsAround "SELECT * FROM t" "ORDER BY a"
    let bag : Bag := fun _ => none
    renderStatement d "Test" bag s = .ok "SELECT * FROM tWHERE a = 1ORDER BY a"
      ∧ Reaches d "Test" bag (.start s) ⟨["rows", "filter"], [.whereBlock [.text "and a = 1"]]⟩
      ∧ clause? "and a = 1".toList = some "WHERE a = 1".toList
      ∧ ¬ words "WHERE a = 1".toList
        <:+: words "SELECT * FROM tWHERE a = 1ORDER BY a".toList := by
  intro d s bag
  refine ⟨?_, ?_, rfl, by decide⟩
  · rw [renderStatement_rowsAround]
    rfl
  · exact .head (.next rfl) <| .single (.inclusion (s := filteredByA) filter_off rfl)

end SqlMapper.Query
