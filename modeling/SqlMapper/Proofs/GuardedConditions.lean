/-
Module: SqlMapper.Proofs.GuardedConditions
Purpose: A block of guarded conditions is the conditions whose guards hold, joined.
Main exports: Guard, GuardedCondition, conditionNodes, joinedClause?, words_contentOf,
  clause?_contentOf, conditions_joined
-/
import SqlMapper.Proofs.TemplateText

namespace SqlMapper.Query

open SqlMapper.Condition SqlMapper.Document SqlMapper.Parameter SqlMapper.Text

/-!
Filters are written as conditions with a guard around each and a connector in
front of each, so that every selection of them reads well. What is pruned leaves
only the blanks around it, so the words of such a block are those of the
conditions whose guards hold, each behind its connector. The first connector is
the first word of the block and never the only one, and so it is dropped, and
nothing else is, whatever words the condition behind it starts with.
-/

/-- What decides whether a condition is part of a block. -/
inductive Guard where
  | test (expression : String)
  | presence (property : String)
deriving Repr, Inhabited, DecidableEq

/-- Whether a guard holds. A property is present if its value is not empty. -/
def Guard.holds (bag : Bag) : Guard → Except ConditionError Bool
  | .test expression => Condition.test expression bag
  | .presence property => .ok ((bag property).any (! ·.isEmpty))

/-- A condition with its guard and its connector, and the text in front of it. -/
structure GuardedCondition where
  gap : String
  guard : Guard
  connector : String
  condition : String
deriving Repr, Inhabited, DecidableEq

namespace GuardedCondition

/-- The text under the guard. -/
def content (g : GuardedCondition) : String := g.connector ++ " " ++ g.condition

/-- The directive of the guard around the text under it. -/
def node (g : GuardedCondition) : Node :=
  match g.guard with
  | .test expression => .ifTest expression [.text g.content]
  | .presence property => .isNotNull property [.text g.content]

/-- Whether the guard is known to hold. -/
def isActive (bag : Bag) (g : GuardedCondition) : Bool :=
  match g.guard.holds bag with
  | .ok holds => holds
  | .error _ => false

/-- The guard is no faulty test, the connector is one, the condition has a word
and there are only blanks in front. -/
structure IsSound (bag : Bag) (g : GuardedCondition) : Prop where
  decided : ∃ holds, g.guard.holds bag = .ok holds
  connects : joinsConditions g.connector.toList
  worded : isBlankText g.condition.toList = false
  blank : isBlankText g.gap.toList = true

/-- The flattened condition behind its connector and a space. -/
def joined (g : GuardedCondition) : List Char :=
  ' ' :: (g.connector.toList ++ ' ' :: flattenChars g.condition.toList)

end GuardedCondition

/-- The node of a text between conditions, if there is any. -/
def gapNodes (gap : String) : List Node := if gap = "" then [] else [.text gap]

/-- The nodes of guarded conditions, with the texts in front of each and at the end. -/
def conditionNodes (gs : List GuardedCondition) (trail : String) : List Node :=
  gs.flatMap (fun g => gapNodes g.gap ++ [g.node]) ++ gapNodes trail

/-- The clause of conditions: the first without its connector, the others behind theirs. -/
def joinedClause? : List GuardedCondition → Option (List Char)
  | [] => none
  | first :: later =>
      some ("WHERE ".toList ++ flattenChars first.condition.toList
        ++ later.flatMap GuardedCondition.joined)

/-! ### Connectors are words -/

/-- A blank is no letter. -/
theorem toUpper_of_isBlank {c : Char} (h : isBlank c = true) : c.toUpper = c := by
  unfold Char.toUpper
  split
  · rename_i lower
    have low : 97 ≤ c.toNat := lower.1
    have high : c.toNat ≤ 122 := lower.2
    simp only [isBlank, Bool.or_eq_true, Bool.and_eq_true, decide_eq_true_eq, beq_iff_eq] at h
    omega
  · rfl

theorem isWord_of_joinsConditions {w : List Char} (h : joinsConditions w) : IsWord w := by
  have upper : IsWord (w.map Char.toUpper) := by
    rcases h with h | h
    · rw [h]
      decide
    · rw [h]
      decide
  constructor
  · rintro rfl
    exact upper.1 rfl
  · intro c member
    have visible := upper.2 _ (List.mem_map_of_mem member)
    rw [← Bool.not_eq_true]
    intro blank
    rw [toUpper_of_isBlank blank, blank] at visible
    cases visible

/-! ### The text and the words of a block -/

section

variable {bag : Bag} {g : GuardedCondition} {gs : List GuardedCondition} {trail : String}

/-- The text of one condition: all of it or nothing. -/
def textOf (bag : Bag) (g : GuardedCondition) : List Char :=
  if g.isActive bag then g.content.toList else []

/-- The text of the nodes of guarded conditions. -/
def contentOf (bag : Bag) (gs : List GuardedCondition) (trail : String) : List Char :=
  gs.flatMap (fun g => g.gap.toList ++ textOf bag g) ++ trail.toList

theorem renderNodes_append {included : String → Except QueryError (List Char)}
    {nodes others : List Node} {text more : List Char}
    (first : renderNodes bag included nodes = .ok text)
    (rest : renderNodes bag included others = .ok more) :
    renderNodes bag included (nodes ++ others) = .ok (text ++ more) := by
  induction nodes generalizing text with
  | nil =>
    rw [renderNodes] at first
    cases first
    exact rest
  | cons node nodes ih =>
    obtain ⟨head, later, hhead, hlater, rfl⟩ := renderNodes_cons_eq_ok_iff.mp first
    exact renderNodes_cons_eq_ok_iff.mpr
      ⟨head, later ++ more, hhead, ih hlater, (List.append_assoc ..).symm⟩

theorem renderNodes_gapNodes (included : String → Except QueryError (List Char)) (gap : String) :
    renderNodes bag included (gapNodes gap) = .ok gap.toList := by
  unfold gapNodes
  split
  · rename_i empty
    rw [empty, renderNodes]
    rfl
  · simp [renderNodes, renderNode, Except.map]

/-- A guard that is decided lets all of the condition pass or nothing. -/
theorem renderNode_node (included : String → Except QueryError (List Char))
    (decided : ∃ holds, g.guard.holds bag = .ok holds) :
    renderNode bag included g.node = .ok (textOf bag g) := by
  obtain ⟨holds, decided⟩ := decided
  have active : g.isActive bag = holds := by rw [GuardedCondition.isActive, decided]
  have content : renderNodes bag included [.text g.content] = .ok g.content.toList := by
    simp [renderNodes, renderNode, Except.map]
  rw [textOf, active, GuardedCondition.node]
  cases kind : g.guard with
  | test expression =>
    rw [kind] at decided
    have decided : Condition.test expression bag = .ok holds := decided
    cases holds with
    | true => simp only [renderNode, decided, content, if_true]
    | false => simp [renderNode, decided]
  | presence property =>
    rw [kind] at decided
    have decided : (bag property).any (! ·.isEmpty) = holds := Except.ok.inj decided
    simp only [renderNode]
    cases looked : bag property with
    | none =>
      rw [looked] at decided
      cases decided
      rfl
    | some value =>
      rw [looked, Option.any_some] at decided
      dsimp only
      rw [← decided, content]
      cases value.isEmpty <;> rfl

/-- The block is rendered if no guard is a faulty test. -/
theorem renderNodes_conditionNodes (included : String → Except QueryError (List Char))
    (decided : ∀ g ∈ gs, ∃ holds, g.guard.holds bag = .ok holds) :
    renderNodes bag included (conditionNodes gs trail) = .ok (contentOf bag gs trail) := by
  refine renderNodes_append ?_ (renderNodes_gapNodes included trail)
  induction gs with
  | nil => rw [List.flatMap_nil, List.flatMap_nil, renderNodes]
  | cons g gs ih =>
    obtain ⟨first, others⟩ := List.forall_mem_cons.mp decided
    have single : renderNodes bag included [g.node] = .ok (textOf bag g) := by
      simp [renderNodes, renderNode_node included first, Except.map]
    rw [List.flatMap_cons, List.flatMap_cons]
    exact renderNodes_append (renderNodes_append (renderNodes_gapNodes included g.gap) single)
      (ih others)

/-- The words of a condition behind its connector. -/
def wordsOf (g : GuardedCondition) : List (List Char) :=
  g.connector.toList :: words g.condition.toList

theorem words_content (sound : g.IsSound bag) : words g.content.toList = wordsOf g := by
  have parts : g.content.toList = g.connector.toList ++ ' ' :: g.condition.toList := by
    simp [GuardedCondition.content]
  rw [parts, words_append_cons (by decide),
    words_of_isWord (isWord_of_joinsConditions sound.connects)]
  rfl

/-- What stands behind a condition starts with a blank, if it does not start
with a further condition. -/
theorem head?_contentOf (sound : ∀ g ∈ gs, g.IsSound bag) (apart : ∀ g ∈ gs, g.gap ≠ "")
    (trailing : isBlankText trail.toList = true) :
    (contentOf bag gs trail).head?.all isBlank = true := by
  cases gs with
  | nil =>
    rw [contentOf, List.flatMap_nil, List.nil_append]
    cases blanks : trail.toList with
    | nil => rfl
    | cons c rest =>
      rw [blanks, isBlankText, List.all_cons, Bool.and_eq_true] at trailing
      exact trailing.1
  | cons g gs =>
    have blank := (sound g List.mem_cons_self).blank
    cases blanks : g.gap.toList with
    | nil => exact absurd (String.toList_eq_nil_iff.mp blanks) (apart g List.mem_cons_self)
    | cons c rest =>
      rw [blanks, isBlankText, List.all_cons, Bool.and_eq_true] at blank
      rw [contentOf, List.flatMap_cons, blanks]
      exact blank.1

/-- The words of a block are those of the conditions whose guards hold. -/
theorem words_contentOf (sound : ∀ g ∈ gs, g.IsSound bag) (apart : ∀ g ∈ gs.tail, g.gap ≠ "")
    (trailing : isBlankText trail.toList = true) :
    words (contentOf bag gs trail) = (gs.filter (·.isActive bag)).flatMap wordsOf := by
  induction gs with
  | nil =>
    rw [contentOf, List.flatMap_nil, List.nil_append, ← List.append_nil trail.toList,
      words_append_of_isBlankText trailing]
    rfl
  | cons g gs ih =>
    obtain ⟨first, others⟩ := List.forall_mem_cons.mp sound
    rw [List.tail_cons] at apart
    have behind := head?_contentOf others apart trailing
    have rest := ih others fun g member => apart g (List.mem_of_mem_tail member)
    have whole : contentOf bag (g :: gs) trail
        = g.gap.toList ++ (textOf bag g ++ contentOf bag gs trail) := by
      simp [contentOf]
    rw [whole, words_append_of_isBlankText first.blank, textOf]
    cases active : g.isActive bag with
    | false =>
      rw [List.filter_cons_of_neg (by simp [active]), ← rest]
      rfl
    | true =>
      have parted : parted g.content.toList (contentOf bag gs trail) = true := by
        rw [parted, behind, Bool.or_true]
      rw [if_pos rfl, words_append_of_parted parted, words_content first, rest,
        List.filter_cons_of_pos active, List.flatMap_cons]

/-! ### The clause of a block -/

theorem intercalate_cons_of_ne_nil (w : List Char) {others : List (List Char)}
    (rest : others ≠ []) :
    List.intercalate [' '] (w :: others) = w ++ ' ' :: List.intercalate [' '] others := by
  cases others with
  | nil => exact absurd rfl rest
  | cons next others => simp

theorem intercalate_append_of_ne_nil {ws others : List (List Char)} (first : ws ≠ [])
    (rest : others ≠ []) :
    List.intercalate [' '] (ws ++ others)
      = List.intercalate [' '] ws ++ ' ' :: List.intercalate [' '] others := by
  induction ws with
  | nil => exact absurd rfl first
  | cons w ws ih =>
    by_cases last : ws = []
    · rw [last, List.singleton_append, List.intercalate_singleton]
      exact intercalate_cons_of_ne_nil w rest
    · rw [List.cons_append, intercalate_cons_of_ne_nil w (by simp [last]), ih last,
        intercalate_cons_of_ne_nil w last]
      simp

/-- The words of conditions, joined to other words. -/
theorem intercalate_append_wordsOf (sound : ∀ g ∈ gs, words g.condition.toList ≠ [])
    {ws : List (List Char)} (first : ws ≠ []) :
    List.intercalate [' '] (ws ++ gs.flatMap wordsOf)
      = List.intercalate [' '] ws ++ gs.flatMap GuardedCondition.joined := by
  induction gs generalizing ws with
  | nil => simp
  | cons g gs ih =>
    obtain ⟨worded, others⟩ := List.forall_mem_cons.mp sound
    have text : List.intercalate [' '] (wordsOf g)
        = g.connector.toList ++ ' ' :: flattenChars g.condition.toList :=
      intercalate_cons_of_ne_nil g.connector.toList worded
    have more : ws ++ wordsOf g ≠ [] := by simp [first]
    rw [List.flatMap_cons, ← List.append_assoc, ih others more,
      intercalate_append_of_ne_nil first (by simp [wordsOf]), text, List.flatMap_cons,
      List.append_assoc]
    rfl

theorem words_condition_ne_nil (sound : g.IsSound bag) : words g.condition.toList ≠ [] := by
  intro none
  have worded := sound.worded
  rw [words_eq_nil_iff.mp none] at worded
  cases worded

/-- The first connector is dropped: it is a connector, and not the only word. -/
theorem clauseWords_eq {content : List Char} {first : GuardedCondition}
    {later : List GuardedCondition} (sound : first.IsSound bag)
    (whole : words content = (first :: later).flatMap wordsOf) :
    clauseWords content = keyword :: words first.condition.toList ++ later.flatMap wordsOf := by
  have connects : isConnector first.connector.toList = true := isConnector_iff.mpr sound.connects
  rw [clauseWords, whole, List.flatMap_cons, wordsOf]
  cases condition : words first.condition.toList with
  | nil => exact absurd condition (words_condition_ne_nil sound)
  | cons w ws => simp [dropConnector, connects]

/-- The clause of a block is that of the conditions whose guards hold. -/
theorem clause?_contentOf (sound : ∀ g ∈ gs, g.IsSound bag) (apart : ∀ g ∈ gs.tail, g.gap ≠ "")
    (trailing : isBlankText trail.toList = true) :
    clause? (contentOf bag gs trail) = joinedClause? (gs.filter (·.isActive bag)) := by
  have whole := words_contentOf sound apart trailing
  have kept : ∀ g ∈ gs.filter (·.isActive bag), g.IsSound bag :=
    fun g member => sound g (List.mem_of_mem_filter member)
  cases active : gs.filter (·.isActive bag) with
  | nil =>
    rw [active] at whole
    exact clause?_eq_none_iff.mpr whole
  | cons first later =>
    rw [active] at whole kept
    obtain ⟨firstSound, laterSound⟩ := List.forall_mem_cons.mp kept
    have worded := words_condition_ne_nil firstSound
    refine clause?_eq_some_iff.mpr ⟨by simp [whole, wordsOf], ?_⟩
    rw [clauseWords_eq firstSound whole,
      intercalate_append_wordsOf (fun g member => words_condition_ne_nil (laterSound g member))
        (by simp),
      intercalate_cons_of_ne_nil keyword worded]
    rfl

end

/-- A block of guarded conditions with blanks between them is nothing at all if
no guard holds. Otherwise it is the keyword, the first condition whose guard
holds, and behind their connectors the others whose guards hold, in order and
flattened: with a space on either side where it stands among other nodes, and
without them where it is all of a statement. -/
theorem conditions_joined {bag : Bag} {gs : List GuardedCondition} {trail : String}
    (sound : ∀ g ∈ gs, g.IsSound bag) (apart : ∀ g ∈ gs.tail, g.gap ≠ "")
    (trailing : isBlankText trail.toList = true) :
    (∀ included, renderNode bag included (.whereBlock (conditionNodes gs trail))
        = .ok (match joinedClause? (gs.filter (·.isActive bag)) with
          | some clause => ' ' :: (clause ++ [' '])
          | none => []))
      ∧ ∀ d file kind id,
        renderStatement d file bag ⟨kind, id, [.whereBlock (conditionNodes gs trail)]⟩
          = .ok (String.ofList ((joinedClause? (gs.filter (·.isActive bag))).getD [])) := by
  have same := clause?_contentOf sound apart trailing
  have block : ∀ included, renderNode bag included (.whereBlock (conditionNodes gs trail))
      = .ok (blockText (contentOf bag gs trail)) := by
    intro included
    rw [renderNode, renderNodes_conditionNodes included fun g member => (sound g member).decided]
    rfl
  constructor
  · intro included
    rw [block, ← same]
    rfl
  · intro d file kind id
    rw [renderStatement, renderBody_eq]
    simp only [renderNodes, block, Except.map, List.append_nil]
    -- Flattening takes the spaces around the clause and nothing else.
    rw [blockText]
    cases found : clause? (contentOf bag gs trail) with
    | none =>
      rw [← same, found]
      rfl
    | some clause =>
      obtain ⟨clauseWords, flat⟩ := clause_flat found
      have trimmed : flattenChars (' ' :: (clause ++ [' '])) = clause := by
        rw [flattenChars_cons_of_blank (by decide), flattenChars, words_append_cons (by decide),
          words_nil, List.append_nil]
        exact flat
      rw [← same, found]
      simp [trimmed]

private def searchConditions : List GuardedCondition :=
  [⟨"", .presence "name", "AND", " é = @name "⟩,
    ⟨"\n  ", .test "kind == new", "and", "and\n b OR c"⟩,
    ⟨" ", .presence "city", "Or", "OR"⟩,
    ⟨"\t", .test "kind != 'new'", "oR", "d"⟩]

/-- Conditions that start like connectors, of which the first and the last do not hold. -/
theorem conditions_joined_connectors :
    let bag : Bag := fun name =>
      if name = "kind" then some "new" else if name = "city" then some "x" else none
    (∀ g ∈ searchConditions, g.IsSound bag)
      ∧ (∀ g ∈ searchConditions.tail, g.gap ≠ "")
      ∧ isBlankText "\n".toList = true
      ∧ renderStatement ⟨[]⟩ "Test" bag
          ⟨"sql", "search", [.whereBlock (conditionNodes searchConditions "\n")]⟩
        = .ok "WHERE and b OR c Or OR" := by
  intro bag
  have sound : ∀ g ∈ searchConditions, g.IsSound bag := by
    intro g member
    simp only [searchConditions, List.mem_cons, List.not_mem_nil, or_false] at member
    rcases member with rfl | rfl | rfl | rfl
    · exact ⟨⟨false, rfl⟩, by decide, by decide, by decide⟩
    · exact ⟨⟨true, rfl⟩, by decide, by decide, by decide⟩
    · exact ⟨⟨true, rfl⟩, by decide, by decide, by decide⟩
    · exact ⟨⟨false, rfl⟩, by decide, by decide, by decide⟩
  have apart : ∀ g ∈ searchConditions.tail, g.gap ≠ "" := by decide
  have trailing : isBlankText "\n".toList = true := by decide
  refine ⟨sound, apart, trailing, ?_⟩
  rw [(conditions_joined sound apart trailing).2]
  rfl

end SqlMapper.Query
