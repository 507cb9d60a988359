/-
Module: SqlMapper.Proofs.StatementPlaces
Purpose: Which elements of a tree are statements, by the places where they stand.
Main exports: contentAt?, IsOutermost, isOutermost_cons_iff, placedAll, mem_placedAll,
  pairwise_placedAll, firstOfEachId_map_snd, statements_outermost
-/
import Mathlib.Data.List.Forall2
import SqlMapper.Proofs.StatementIds

namespace SqlMapper.Document

open SqlMapper.Markup SqlMapper.Text

/-!
A place is the way to a tree: its index among the trees, or the place of the
element around it and its index among the children of that. In the order of
dictionaries places are ordered as their trees are in a document, an element
before what it holds. So the statements of a document can be said by their
places, without saying how they are found.
-/

/-! ### Places -/

/-- The tree at a place. -/
def contentAt? : List Content → List Nat → Option Content
  | _, [] => none
  | contents, [i] => contents[i]?
  | contents, i :: j :: below =>
      match contents[i]? with
      | some (.element _ _ children) => contentAt? children (j :: below)
      | some (.text _) | none => none

/-- At a place stands the element of a statement. Its kind is the name of the
element, its id the value of the first attribute that is named `id` in any case
of letters, its body what is built of the children; and no element around it has
such an attribute. -/
structure IsOutermost (contents : List Content) (place : List Nat) (s : Statement) : Prop where
  element : ∃ before key after children,
    contentAt? contents place = some (.element s.kind (before ++ (key, s.id) :: after) children)
      ∧ sameLetters key "id" = true ∧ (∀ a ∈ before, sameLetters a.1 "id" = false)
      ∧ s.body = buildNodes children
  outermost : ∀ above, above <+: place → above ≠ place → ∀ tag attributes children,
    contentAt? contents above = some (.element tag attributes children) →
      ∀ a ∈ attributes, sameLetters a.1 "id" = false

section

variable {contents children : List Content} {s : Statement} {i : Nat} {below : List Nat}

theorem not_isOutermost_nil : ¬ IsOutermost contents [] s := by
  rintro ⟨⟨_, _, _, _, found, _⟩, _⟩
  cases found

/-- Below an element its children are looked at. -/
theorem contentAt?_cons {tag : String} {attributes : List (String × String)}
    (here : contents[i]? = some (.element tag attributes children)) (nonempty : below ≠ []) :
    contentAt? contents (i :: below) = contentAt? children below := by
  cases below with
  | nil => exact absurd rfl nonempty
  | cons j below => rw [contentAt?, here]

/-- An element that has an id is a statement, and nothing below it is one; below
an element that has none are its outermost elements with an id. -/
theorem isOutermost_cons_iff :
    IsOutermost contents (i :: below) s ↔
      ∃ tag attributes children, contents[i]? = some (.element tag attributes children)
        ∧ ((∃ id, attribute? attributes "id" = some id ∧ below = []
            ∧ s = ⟨tag, id, buildNodes children⟩)
          ∨ (attribute? attributes "id" = none ∧ IsOutermost children below s)) := by
  constructor
  · rintro ⟨⟨before, key, after, children, found, named, earlier, body⟩, outermost⟩
    cases below with
    | nil =>
      refine ⟨_, _, _, found, .inl ⟨s.id, ?_, rfl, ?_⟩⟩
      · exact attribute?_eq_some_iff.mpr ⟨before, key, after, rfl, named, earlier⟩
      · rw [← body]
    | cons j below =>
      obtain ⟨tag, attributes, inner, here⟩ : ∃ tag attributes inner,
          contents[i]? = some (.element tag attributes inner) := by
        rw [contentAt?] at found
        split at found
        · rename_i tag attributes inner here
          exact ⟨tag, attributes, inner, here⟩
        · cases found
        · cases found
      have unnamed := outermost [i] (by simp) (by simp) tag attributes inner here
      rw [contentAt?_cons here (List.cons_ne_nil j below)] at found
      refine ⟨tag, attributes, inner, here, .inr ⟨attribute?_eq_none_iff.mpr unnamed,
        ⟨before, key, after, children, found, named, earlier, body⟩, ?_⟩⟩
      intro above inside proper
      cases above with
      | nil => exact fun _ _ _ stands => nomatch stands
      | cons first above =>
        have := outermost (i :: first :: above) (by simpa using inside) (by simpa using proper)
        rwa [contentAt?_cons here (List.cons_ne_nil first above)] at this
  · rintro ⟨tag, attributes, children, here, ⟨id, has, rfl, rfl⟩ | ⟨lacks, inner⟩⟩
    · obtain ⟨before, key, after, rfl, named, earlier⟩ := attribute?_eq_some_iff.mp has
      refine ⟨⟨before, key, after, children, here, named, earlier, rfl⟩, ?_⟩
      intro above inside proper
      rcases List.prefix_cons_iff.mp inside with rfl | ⟨rest, rfl, short⟩
      · exact fun _ _ _ stands => nomatch stands
      · rw [List.prefix_nil.mp short] at proper
        exact absurd rfl proper
    · obtain ⟨⟨before, key, after, kids, found, named, earlier, body⟩, outermost⟩ := inner
      have nonempty : below ≠ [] := by
        rintro rfl
        cases found
      refine ⟨⟨before, key, after, kids, ?_, named, earlier, body⟩, ?_⟩
      · rw [contentAt?_cons here nonempty, found]
      · intro above inside proper
        rcases List.prefix_cons_iff.mp inside with rfl | ⟨rest, rfl, short⟩
        · exact fun _ _ _ stands => nomatch stands
        · cases rest with
          | nil =>
            intro _ _ _ stands
            rw [contentAt?, here] at stands
            cases stands
            exact attribute?_eq_none_iff.mp lacks
          | cons first rest =>
            rw [contentAt?_cons here (List.cons_ne_nil first rest)]
            exact outermost _ short (by simpa using proper)

theorem isOutermost_element_iff {tag : String} {attributes : List (String × String)} :
    IsOutermost [.element tag attributes children] (0 :: below) s
      ↔ (∃ id, attribute? attributes "id" = some id ∧ below = []
          ∧ s = ⟨tag, id, buildNodes children⟩)
        ∨ (attribute? attributes "id" = none ∧ IsOutermost children below s) := by
  rw [isOutermost_cons_iff]
  constructor
  · rintro ⟨_, _, _, ⟨⟩, stands⟩
    exact stands
  · intro stands
    exact ⟨tag, attributes, children, rfl, stands⟩

end

/-! ### Statements with their places -/

mutual

/-- The statements of a tree with their places, if the tree stands at an index. -/
def placed (i : Nat) : Content → List (List Nat × Statement)
  | .text _ => []
  | .element tag attributes children =>
      match attribute? attributes "id" with
      | some id => [([i], ⟨tag, id, buildNodes children⟩)]
      | none => (placedAll 0 children).map fun p => (i :: p.1, p.2)

/-- The statements of trees with their places, if the first stands at an index. -/
def placedAll (i : Nat) : List Content → List (List Nat × Statement)
  | [] => []
  | content :: rest => placed i content ++ placedAll (i + 1) rest

end

mutual

theorem map_snd_placed (i : Nat) : ∀ content, (placed i content).map (·.2) = statementsOf content
  | .text _ => by rw [placed, statementsOf, List.map_nil]
  | .element tag attributes children => by
      rw [placed, statementsOf]
      cases attribute? attributes "id" with
      | some id => rfl
      | none => rw [List.map_map, ← map_snd_placedAll 0 children]; rfl

/-- Without their places these are the statements of the trees. -/
theorem map_snd_placedAll (i : Nat) :
    ∀ contents, (placedAll i contents).map (·.2) = statementsOfAll contents
  | [] => by rw [placedAll, statementsOfAll, List.map_nil]
  | content :: rest => by
      rw [placedAll, statementsOfAll, List.map_append, map_snd_placed i content,
        map_snd_placedAll (i + 1) rest]

end

mutual

theorem mem_placed (i : Nat) {place : List Nat} {s : Statement} : ∀ {content},
    (place, s) ∈ placed i content
      ↔ ∃ below, place = i :: below ∧ IsOutermost [content] (0 :: below) s
  | .text _ => by
      simp [placed, isOutermost_cons_iff]
  | .element tag attributes children => by
      simp only [placed, isOutermost_element_iff]
      cases attribute? attributes "id" with
      | some id => simp
      | none =>
        simp only [List.mem_map, Prod.mk.injEq, Prod.exists, mem_placedAll 0, Nat.zero_add,
          reduceCtorEq, false_and, exists_false, true_and, false_or]
        constructor
        · rintro ⟨_, _, ⟨j, below, rfl, stands⟩, rfl, rfl⟩
          exact ⟨j :: below, rfl, stands⟩
        · rintro ⟨below, rfl, stands⟩
          cases below with
          | nil => exact absurd stands not_isOutermost_nil
          | cons j below => exact ⟨j :: below, s, ⟨j, below, rfl, stands⟩, rfl, rfl⟩

/-- The places of the statements are those of the outermost elements with an id. -/
theorem mem_placedAll (i : Nat) {place : List Nat} {s : Statement} : ∀ {contents},
    (place, s) ∈ placedAll i contents
      ↔ ∃ j below, place = (i + j) :: below ∧ IsOutermost contents (j :: below) s
  | [] => by
      simp [placedAll, isOutermost_cons_iff]
  | content :: rest => by
      rw [placedAll, List.mem_append, mem_placed i, mem_placedAll (i + 1)]
      have first : ∀ below, IsOutermost (content :: rest) (0 :: below) s
          ↔ IsOutermost [content] (0 :: below) s := by
        intro below
        simp only [isOutermost_cons_iff, List.getElem?_cons_zero]
      have later : ∀ j below, IsOutermost (content :: rest) ((j + 1) :: below) s
          ↔ IsOutermost rest (j :: below) s := by
        intro j below
        simp only [isOutermost_cons_iff, List.getElem?_cons_succ]
      constructor
      · rintro (⟨below, rfl, stands⟩ | ⟨j, below, rfl, stands⟩)
        · exact ⟨0, below, rfl, (first below).mpr stands⟩
        · refine ⟨j + 1, below, ?_, (later j below).mpr stands⟩
          rw [Nat.add_right_comm, Nat.add_assoc]
      · rintro ⟨j, below, rfl, stands⟩
        cases j with
        | zero => exact .inl ⟨below, rfl, (first below).mp stands⟩
        | succ j =>
          refine .inr ⟨j, below, ?_, (later j below).mp stands⟩
          rw [Nat.add_right_comm, Nat.add_assoc]

end

mutual

theorem pairwise_placed (i : Nat) : ∀ content, ((placed i content).map (·.1)).Pairwise (· < ·)
  | .text _ => by
      rw [placed]
      exact .nil
  | .element tag attributes children => by
      rw [placed]
      cases attribute? attributes "id" with
      | some id => exact List.pairwise_singleton _ _
      | none =>
        have inner := pairwise_placedAll 0 children
        rw [List.pairwise_map] at inner
        rw [List.map_map, List.pairwise_map]
        exact inner.imp fun before => List.cons_lt_cons_iff.mpr (.inr ⟨rfl, before⟩)

/-- The statements are in the order of their places. -/
theorem pairwise_placedAll (i : Nat) :
    ∀ contents, ((placedAll i contents).map (·.1)).Pairwise (· < ·)
  | [] => by
      rw [placedAll]
      exact .nil
  | content :: rest => by
      rw [placedAll, List.map_append, List.pairwise_append]
      refine ⟨pairwise_placed i content, pairwise_placedAll (i + 1) rest, ?_⟩
      intro place first other later
      obtain ⟨p, member, rfl⟩ := List.mem_map.mp first
      obtain ⟨q, after, rfl⟩ := List.mem_map.mp later
      obtain ⟨below, front, -⟩ := (mem_placed i).mp member
      obtain ⟨j, deeper, back, -⟩ := (mem_placedAll (i + 1)).mp after
      rw [front, back]
      exact List.cons_lt_cons_iff.mpr (.inl (by omega))

end

/-! ### The first of each id -/

/-- Whether no statement at an earlier place has the id of one. -/
def IsFirst (placed : List (List Nat × Statement)) (p : List Nat × Statement) : Prop :=
  ∀ q ∈ placed, q.1 < p.1 → q.2.id ≠ p.2.id

instance (placed : List (List Nat × Statement)) : DecidablePred (IsFirst placed) :=
  fun p => inferInstanceAs (Decidable (∀ q ∈ placed, q.1 < p.1 → q.2.id ≠ p.2.id))

/-- Of statements in the order of their places the first of each id are kept. -/
theorem firstOfEachId_map_snd {placed : List (List Nat × Statement)}
    (ascending : (placed.map (·.1)).Pairwise (· < ·)) :
    firstOfEachId (placed.map (·.2)) = (placed.filter (IsFirst placed ·)).map (·.2) := by
  induction placed using List.reverseRecOn with
  | nil => rfl
  | append_singleton rest p ih =>
    rw [List.map_append, List.pairwise_append] at ascending
    obtain ⟨restAscending, -, before⟩ := ascending
    have behind : ∀ q ∈ rest, q.1 < p.1 := fun q member =>
      before q.1 (List.mem_map_of_mem member) p.1 (by simp)
    -- What comes later does not count for the earlier ones.
    have others : ∀ q ∈ rest, IsFirst (rest ++ [p]) q ↔ IsFirst rest q := by
      intro q member
      have notBefore : ¬ p.1 < q.1 := List.lt_asymm (behind q member)
      simp [IsFirst, or_imp, forall_and, notBefore]
    have last : p.2.id ∈ (firstOfEachId (rest.map (·.2))).map (·.id)
        ↔ ¬ IsFirst (rest ++ [p]) p := by
      rw [mem_ids_firstOfEachId_iff]
      simp only [IsFirst, List.mem_append, List.mem_singleton, List.map_map, List.mem_map,
        not_forall, not_not]
      constructor
      · rintro ⟨q, member, clash⟩
        exact ⟨q, .inl member, behind q member, clash⟩
      · rintro ⟨q, member | rfl, lower, clash⟩
        · exact ⟨q, member, clash⟩
        · exact absurd lower (List.lt_irrefl _)
    have kept : rest.filter (IsFirst (rest ++ [p]) ·) = rest.filter (IsFirst rest ·) :=
      List.filter_congr fun q member => by simp [others q member]
    rw [List.map_append, List.map_singleton, firstOfEachId_concat, List.filter_append, kept,
      List.map_append, ← ih restAscending]
    by_cases first : IsFirst (rest ++ [p]) p
    · rw [if_neg (not_not_intro first ∘ last.mp), List.filter_cons_of_pos (by simpa using first)]
      rfl
    · rw [if_pos (last.mpr first), List.filter_cons_of_neg (by simpa using first)]
      rfl

/-- The statements of a document are, in the order in which they are written, the
outermost elements that have an id, each the first with its id; and no element
below one that has an id is a statement. -/
theorem statements_outermost (contents : List Content) :
    ∃ places : List (List Nat), places.Pairwise (· < ·)
      ∧ List.Forall₂ (IsOutermost contents) places (ofContents contents).statements
      ∧ (∀ place, place ∈ places ↔ ∃ s, IsOutermost contents place s
        ∧ ∀ earlier t, earlier < place → IsOutermost contents earlier t → t.id ≠ s.id)
      ∧ ∀ above place tag attributes children, above <+: place → above ≠ place →
        contentAt? contents above = some (.element tag attributes children) →
        (∃ a ∈ attributes, sameLetters a.1 "id" = true) → place ∉ places := by
  have ascending := pairwise_placedAll 0 contents
  have stands : ∀ place s, (place, s) ∈ placedAll 0 contents ↔ IsOutermost contents place s := by
    intro place s
    simp only [mem_placedAll 0, Nat.zero_add]
    constructor
    · rintro ⟨j, below, rfl, stands⟩
      exact stands
    · intro stands
      cases place with
      | nil => exact absurd stands not_isOutermost_nil
      | cons j below => exact ⟨j, below, rfl, stands⟩
  have first : ∀ place s, IsFirst (placedAll 0 contents) (place, s)
      ↔ ∀ earlier t, earlier < place → IsOutermost contents earlier t → t.id ≠ s.id := by
    intro place s
    simp only [IsFirst, Prod.forall, stands]
    exact forall₂_congr fun earlier t => imp.swap
  have exact : ∀ place,
      place ∈ ((placedAll 0 contents).filter (IsFirst (placedAll 0 contents) ·)).map (·.1)
        ↔ ∃ s, IsOutermost contents place s
          ∧ ∀ earlier t, earlier < place → IsOutermost contents earlier t → t.id ≠ s.id := by
    intro place
    simp [List.mem_map, List.mem_filter, stands, first]
  refine ⟨_, ascending.sublist (List.filter_sublist.map _), ?_, exact, ?_⟩
  · rw [ofContents, ← map_snd_placedAll 0, firstOfEachId_map_snd ascending,
      List.forall₂_map_left_iff, List.forall₂_map_right_iff, List.forall₂_same]
    intro p member
    exact (stands p.1 p.2).mp (List.mem_of_mem_filter member)
  · rintro above place tag attributes children inside proper around ⟨a, member, named⟩ kept
    obtain ⟨s, here, -⟩ := (exact place).mp kept
    rw [here.outermost above inside proper tag attributes children around a member] at named
    cases named

private def nestedIds : List Content :=
  [.element "mapper" [] [.text "\n",
      .element "Select" [("ID", "a"), ("id", "b")] [.element "sql" [("id", "inner")] []],
      .element "group" [("name", "g")] [.element "sql" [("id", "a")] [],
        .element "sql" [("iD", "c")] [.text "x"]]],
    .element "sql" [("id", "c")] []]

/-- Ids in two spellings, below one another, and twice across containers. -/
theorem statements_outermost_nested :
    (ofContents nestedIds).statements.map (fun s => (s.kind, s.id))
        = [("Select", "a"), ("sql", "c")]
      ∧ contentAt? nestedIds [0, 1]
        = some (.element "Select" [("ID", "a"), ("id", "b")] [.element "sql" [("id", "inner")] []])
      ∧ ∃ places, List.Forall₂ (IsOutermost nestedIds) places (ofContents nestedIds).statements
        ∧ [0, 1, 0] ∉ places := by
  obtain ⟨places, -, same, -, below⟩ := statements_outermost nestedIds
  refine ⟨rfl, rfl, places, same, ?_⟩
  exact below [0, 1] [0, 1, 0] "Select" _ _ (by decide) (by decide) rfl
    ⟨("ID", "a"), by simp, by decide⟩

end SqlMapper.Document
