/-
Module: SqlMapper.Proofs.StatementIds
Purpose: Statements by their ids, and what is kept of statements that claim one id.
Main exports: statement?_id, statement?_eq_some_iff, keepNew, foldl_keepNew,
  nodup_ids_firstOfEachId, mem_of_mem_firstOfEachId, firstOfEachId_of_nodup, firstOfEachId_append,
  mem_ids_firstOfEachId_iff
-/
import Mathlib.Data.List.Induction
import Mathlib.Data.List.Nodup
import SqlMapper.Document.Build

namespace SqlMapper.Document

/-!
Of the statements that claim one id the first is kept. What is kept of some
statements after others are those of them that would be kept without the others
and whose id is not taken; so texts can be read one after the other and put
together afterwards.
-/

section

variable {d : SqlMapper.Document}

theorem id_of_statement? {id : String} {s : Statement} (h : d.statement? id = some s) :
    s.id = id := by
  simpa using List.find?_some h

theorem mem_of_statement? {id : String} {s : Statement} (h : d.statement? id = some s) :
    s ∈ d.statements :=
  List.mem_of_find?_eq_some h

theorem exists_statement?_of_mem {s : Statement} (member : s ∈ d.statements) :
    ∃ found, d.statement? s.id = some found := by
  have : (d.statement? s.id).isSome := by
    rw [statement?, List.find?_isSome]
    exact ⟨s, member, by simp⟩
  exact Option.isSome_iff_exists.mp this

theorem eq_of_id_eq (distinct : d.ids.Nodup) {s t : Statement} (hs : s ∈ d.statements)
    (ht : t ∈ d.statements) (same : s.id = t.id) : s = t :=
  List.inj_on_of_nodup_map distinct hs ht same

theorem statement?_id (distinct : d.ids.Nodup) {t : Statement} (member : t ∈ d.statements) :
    d.statement? t.id = some t := by
  obtain ⟨found, hfound⟩ := exists_statement?_of_mem member
  have same : found = t :=
    eq_of_id_eq distinct (mem_of_statement? hfound) member (id_of_statement? hfound)
  rw [hfound, same]

/-- If no two statements claim one id, an id finds the only statement that has it. -/
theorem statement?_eq_some_iff (distinct : d.ids.Nodup) {id : String} {s : Statement} :
    d.statement? id = some s ↔ s ∈ d.statements ∧ s.id = id := by
  constructor
  · intro found
    exact ⟨mem_of_statement? found, id_of_statement? found⟩
  · rintro ⟨member, rfl⟩
    exact statement?_id distinct member

end

/-! ### The first of each id -/

/-- The statements that were kept, last first, and one more, unless its id is taken. -/
def keepNew (kept : List Statement) (s : Statement) : List Statement :=
  if kept.any (·.id == s.id) then kept else s :: kept

theorem firstOfEachId_eq (statements : List Statement) :
    firstOfEachId statements = (statements.foldl keepNew []).reverse := rfl

theorem keepNew_of_mem {kept : List Statement} {s : Statement} (taken : s.id ∈ kept.map (·.id)) :
    keepNew kept s = kept := by
  rw [keepNew, if_pos (by simpa using taken)]

theorem keepNew_of_not_mem {kept : List Statement} {s : Statement}
    (free : s.id ∉ kept.map (·.id)) : keepNew kept s = s :: kept := by
  rw [keepNew, if_neg (by simpa using free)]

/-- What is kept of statements after others. -/
theorem foldl_keepNew (statements kept : List Statement) :
    statements.foldl keepNew kept
      = (statements.foldl keepNew []).filter (fun s => s.id ∉ kept.map (·.id)) ++ kept := by
  induction statements using List.reverseRecOn with
  | nil => rfl
  | append_singleton rest s ih =>
    rw [List.foldl_append, List.foldl_append, ih]
    simp only [List.foldl_cons, List.foldl_nil]
    generalize rest.foldl keepNew [] = others
    by_cases taken : s.id ∈ kept.map (·.id)
    · have dropped : (keepNew others s).filter (fun s => s.id ∉ kept.map (·.id))
          = others.filter (fun s => s.id ∉ kept.map (·.id)) := by
        unfold keepNew
        split
        · rfl
        · rw [List.filter_cons_of_neg (by simpa using taken)]
      rw [dropped, keepNew_of_mem]
      rw [List.map_append, List.mem_append]
      exact .inr taken
    · by_cases earlier : s.id ∈ others.map (·.id)
      · obtain ⟨t, ht, same⟩ := List.mem_map.mp earlier
        rw [keepNew_of_mem earlier, keepNew_of_mem]
        rw [List.map_append, List.mem_append]
        refine .inl (List.mem_map.mpr ⟨t, List.mem_filter.mpr ⟨ht, ?_⟩, same⟩)
        rw [same]
        simpa using taken
      · rw [keepNew_of_not_mem earlier, keepNew_of_not_mem,
          List.filter_cons_of_pos (by simpa using taken), List.cons_append]
        rw [List.map_append, List.mem_append]
        rintro (inOthers | inKept)
        · obtain ⟨t, ht, same⟩ := List.mem_map.mp inOthers
          exact earlier (List.mem_map.mpr ⟨t, (List.mem_filter.mp ht).1, same⟩)
        · exact taken inKept

/-- Every kept statement is one of the statements. -/
theorem mem_of_mem_firstOfEachId {statements : List Statement} {s : Statement}
    (h : s ∈ firstOfEachId statements) : s ∈ statements := by
  rw [firstOfEachId_eq, List.mem_reverse] at h
  induction statements using List.reverseRecOn with
  | nil => exact h
  | append_singleton rest t ih =>
    rw [List.foldl_append, List.foldl_cons, List.foldl_nil] at h
    rw [List.mem_append, List.mem_singleton]
    by_cases taken : t.id ∈ (rest.foldl keepNew []).map (·.id)
    · rw [keepNew_of_mem taken] at h
      exact .inl (ih h)
    · rw [keepNew_of_not_mem taken, List.mem_cons] at h
      exact h.symm.imp_left ih

/-- No two kept statements claim one id. -/
theorem nodup_ids_firstOfEachId (statements : List Statement) :
    ((firstOfEachId statements).map (·.id)).Nodup := by
  rw [firstOfEachId_eq, List.map_reverse, List.nodup_reverse]
  induction statements using List.reverseRecOn with
  | nil => exact .nil
  | append_singleton rest s ih =>
    rw [List.foldl_append, List.foldl_cons, List.foldl_nil]
    by_cases taken : s.id ∈ (rest.foldl keepNew []).map (·.id)
    · rwa [keepNew_of_mem taken]
    · rw [keepNew_of_not_mem taken, List.map_cons]
      exact ih.cons taken

/-- Of statements with different ids all are kept. -/
theorem firstOfEachId_of_nodup {statements : List Statement}
    (distinct : (statements.map (·.id)).Nodup) : firstOfEachId statements = statements := by
  rw [firstOfEachId_eq, List.reverse_eq_iff]
  induction statements using List.reverseRecOn with
  | nil => rfl
  | append_singleton rest s ih =>
    rw [List.map_append, List.map_singleton, ← List.concat_eq_append, List.nodup_concat] at distinct
    rw [List.foldl_append, ih distinct.2, List.foldl_cons, List.foldl_nil, List.reverse_append]
    refine keepNew_of_not_mem ?_
    rw [List.map_reverse, List.mem_reverse]
    exact distinct.1

/-- Of statements after others those are kept whose id the others do not claim. -/
theorem firstOfEachId_append (statements others : List Statement) :
    firstOfEachId (statements ++ others)
      = firstOfEachId statements
        ++ (firstOfEachId others).filter fun s => s.id ∉ (firstOfEachId statements).map (·.id) := by
  simp only [firstOfEachId_eq]
  rw [List.foldl_append, foldl_keepNew, List.reverse_append, List.filter_reverse]
  simp only [List.map_reverse, List.mem_reverse]

/-- A further statement is kept if none before it has its id. -/
theorem firstOfEachId_concat (statements : List Statement) (s : Statement) :
    firstOfEachId (statements ++ [s])
      = firstOfEachId statements
        ++ if s.id ∈ (firstOfEachId statements).map (·.id) then [] else [s] := by
  have single : firstOfEachId [s] = [s] := firstOfEachId_of_nodup (List.nodup_singleton s.id)
  rw [firstOfEachId_append, single]
  split
  · rename_i taken
    rw [List.filter_cons_of_neg (by simpa using taken), List.filter_nil]
  · rename_i free
    rw [List.filter_cons_of_pos (by simpa using free), List.filter_nil]

/-- Of each id a statement is kept. -/
theorem mem_ids_firstOfEachId_iff {statements : List Statement} {id : String} :
    id ∈ (firstOfEachId statements).map (·.id) ↔ id ∈ statements.map (·.id) := by
  induction statements using List.reverseRecOn with
  | nil => exact .rfl
  | append_singleton rest s ih =>
    rw [firstOfEachId_concat, List.map_append, List.map_append, List.mem_append, List.mem_append,
      ih]
    split
    · rename_i taken
      simp only [List.map_nil, List.not_mem_nil, or_false, List.map_singleton,
        List.mem_singleton]
      constructor
      · exact .inl
      · rintro (member | rfl)
        · exact member
        · exact ih.mp taken
    · exact .rfl

end SqlMapper.Document
