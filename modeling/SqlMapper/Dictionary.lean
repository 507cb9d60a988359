/-
Module: SqlMapper.Dictionary
Purpose: Finite maps from names to values, kept in ascending order of the names.
Main exports: Dictionary, Dictionary.find?, Dictionary.insert, Dictionary.ofList,
  Dictionary.find?_insert, Dictionary.find?_insertAll, Dictionary.mem_names_iff,
  Dictionary.mem_names_ofList, Dictionary.pairwise_names, Dictionary.lookup_perm,
  Dictionary.ext_find?, Dictionary.entries_ofList_perm
-/

namespace SqlMapper

/-!
Wherever names are listed, they are listed once each and in the order of their
code points. The type carries that order, so that two dictionaries with the
same entries are equal and no listing needs to be sorted.
-/

/-- Add an entry to entries in ascending order of their names, in place of an
entry of the same name. -/
def insertEntry {α : Type} (name : String) (value : α) :
    List (String × α) → List (String × α)
  | [] => [(name, value)]
  | entry :: rest =>
      if name < entry.1 then (name, value) :: entry :: rest
      else if name = entry.1 then (name, value) :: rest
      else entry :: insertEntry name value rest

/-- The names stand in strictly ascending order. -/
def Ascending {α : Type} (entries : List (String × α)) : Prop :=
  entries.Pairwise fun a b => a.1 < b.1

theorem mem_insertEntry {α : Type} {name : String} {value : α} {entries : List (String × α)}
    {entry : String × α} (h : entry ∈ insertEntry name value entries) :
    entry = (name, value) ∨ entry ∈ entries := by
  induction entries with
  | nil => simpa [insertEntry] using h
  | cons first rest ih =>
    simp only [insertEntry] at h
    split at h
    · simpa using h
    · split at h
      · rcases List.mem_cons.mp h with h | h
        · exact .inl h
        · exact .inr (List.mem_cons_of_mem _ h)
      · rcases List.mem_cons.mp h with h | h
        · exact .inr (h ▸ List.mem_cons_self)
        · exact (ih h).imp_right (List.mem_cons_of_mem _)

/-- Insertion keeps the order. -/
theorem Ascending.insertEntry {α : Type} {name : String} {value : α}
    {entries : List (String × α)} (h : Ascending entries) :
    Ascending (insertEntry name value entries) := by
  induction entries with
  | nil => simp [SqlMapper.insertEntry, Ascending]
  | cons first rest ih =>
    have hrest := List.pairwise_cons.mp h
    simp only [SqlMapper.insertEntry]
    split
    · rename_i hlt
      refine List.pairwise_cons.mpr ⟨fun entry hmem => ?_, h⟩
      rcases List.mem_cons.mp hmem with rfl | hmem
      · exact hlt
      · exact String.lt_trans hlt (hrest.1 entry hmem)
    · rename_i hnlt
      split
      · rename_i heq
        refine List.pairwise_cons.mpr ⟨fun entry hmem => ?_, hrest.2⟩
        exact heq ▸ hrest.1 entry hmem
      · rename_i hne
        refine List.pairwise_cons.mpr ⟨fun entry hmem => ?_, ih hrest.2⟩
        rcases mem_insertEntry hmem with rfl | hmem
        · exact Std.lt_of_le_of_ne hnlt fun e => hne e.symm
        · exact hrest.1 entry hmem

/-- A finite map from names to values. -/
structure Dictionary (α : Type) where
  entries : List (String × α)
  ascending : Ascending entries
deriving Repr, DecidableEq

namespace Dictionary

variable {α : Type}

/-- The dictionary without entries. -/
def empty : Dictionary α := ⟨[], List.Pairwise.nil⟩

instance : EmptyCollection (Dictionary α) := ⟨empty⟩

instance : Inhabited (Dictionary α) := ⟨empty⟩

/-- The value stored under a name. -/
def find? (d : Dictionary α) (name : String) : Option α := d.entries.lookup name

/-- Whether a value is stored under a name. -/
def contains (d : Dictionary α) (name : String) : Bool := (d.find? name).isSome

/-- Store a value under a name, in place of what was stored there before. -/
def insert (d : Dictionary α) (name : String) (value : α) : Dictionary α :=
  ⟨insertEntry name value d.entries, d.ascending.insertEntry⟩

/-- The names with a value, in ascending order. -/
def names (d : Dictionary α) : List String := d.entries.map (·.1)

/-- The number of names with a value. -/
def size (d : Dictionary α) : Nat := d.entries.length

/-- Store entries one after the other, so that the last value of a name stays. -/
def insertAll (d : Dictionary α) (entries : List (String × α)) : Dictionary α :=
  entries.foldl (fun d entry => d.insert entry.1 entry.2) d

/-- The dictionary of a list of entries; the last value of a name stays. -/
def ofList (entries : List (String × α)) : Dictionary α := empty.insertAll entries

/-- Looking a name up compares it with the first entry's name. -/
theorem lookup_cons_eq (key other : String) (stored : α) (rest : List (String × α)) :
    ((key, stored) :: rest).lookup other
      = if other = key then some stored else rest.lookup other := by
  rw [List.lookup_cons]
  by_cases h : other = key
  · simp [h]
  · simp [beq_false_of_ne h, h]

/-- Looking a name up commutes with a change of all values. -/
theorem lookup_map_values {β : Type} (f : α → β) (entries : List (String × α)) (name : String) :
    (entries.map fun entry => (entry.1, f entry.2)).lookup name = (entries.lookup name).map f := by
  induction entries with
  | nil => rfl
  | cons first rest ih =>
    obtain ⟨key, stored⟩ := first
    rw [List.map_cons, lookup_cons_eq, lookup_cons_eq, ih]
    split <;> rfl

/-- After an entry is added, looking its name up gives its value. -/
theorem lookup_insertEntry (name other : String) (value : α) (entries : List (String × α)) :
    (insertEntry name value entries).lookup other
      = if other = name then some value else entries.lookup other := by
  induction entries with
  | nil => rw [insertEntry, lookup_cons_eq]
  | cons first rest ih =>
    obtain ⟨key, stored⟩ := first
    simp only [insertEntry]
    split
    · rw [lookup_cons_eq]
    · split
      · rename_i heq
        subst heq
        by_cases h : other = name <;> simp [lookup_cons_eq, h]
      · rename_i hne
        rw [lookup_cons_eq, lookup_cons_eq, ih]
        by_cases h : other = key
        · subst h
          simp [Ne.symm hne]
        · simp [h]

/-- After a value is stored, looking its name up gives it, and the other names
are as before. -/
@[simp] theorem find?_insert (d : Dictionary α) (name other : String) (value : α) :
    (d.insert name value).find? other = if other = name then some value else d.find? other :=
  lookup_insertEntry name other value d.entries

@[simp] theorem find?_empty (name : String) : (empty : Dictionary α).find? name = none := rfl

/-- The names are those under which something is stored. -/
theorem mem_names_iff {d : Dictionary α} {name : String} :
    name ∈ d.names ↔ ∃ value, d.find? name = some value := by
  simp only [names, find?]
  generalize d.entries = entries
  induction entries with
  | nil => simp
  | cons first rest ih =>
    obtain ⟨key, stored⟩ := first
    rw [lookup_cons_eq, List.map_cons, List.mem_cons, ih]
    by_cases h : name = key <;> simp [h]

/-- After entries are stored one after the other, a name has the value of the last
of them that has it, and the other names are as before. -/
theorem find?_insertAll (d : Dictionary α) (entries : List (String × α)) (name : String) :
    (d.insertAll entries).find? name = (entries.reverse.lookup name).or (d.find? name) := by
  induction entries generalizing d with
  | nil => rfl
  | cons first rest ih =>
    have further : d.insertAll (first :: rest) = (d.insert first.1 first.2).insertAll rest := rfl
    have last : [first].lookup name = if name = first.1 then some first.2 else none :=
      lookup_cons_eq first.1 name first.2 []
    rw [further, ih, find?_insert, List.reverse_cons, List.lookup_append, Option.or_assoc, last]
    by_cases h : name = first.1 <;> simp [h]

/-- Storing a value adds its name. -/
theorem mem_names_insert {d : Dictionary α} {name other : String} {value : α} :
    other ∈ (d.insert name value).names ↔ other = name ∨ other ∈ d.names := by
  rw [mem_names_iff, mem_names_iff, find?_insert]
  by_cases h : other = name <;> simp [h]

/-- Storing entries adds their names. -/
theorem mem_names_insertAll {d : Dictionary α} {entries : List (String × α)} {name : String} :
    name ∈ (d.insertAll entries).names ↔ name ∈ d.names ∨ name ∈ entries.map (·.1) := by
  induction entries generalizing d with
  | nil => simp [insertAll]
  | cons first rest ih =>
    have further : d.insertAll (first :: rest) = (d.insert first.1 first.2).insertAll rest := rfl
    rw [further, ih, mem_names_insert, List.map_cons, List.mem_cons, or_assoc, or_left_comm]

/-- The names of a dictionary of entries are theirs. -/
theorem mem_names_ofList {entries : List (String × α)} {name : String} :
    name ∈ (ofList entries).names ↔ name ∈ entries.map (·.1) := by
  rw [ofList, mem_names_insertAll]
  simp [empty, names]

/-- The names stand in strictly ascending order. -/
theorem pairwise_names (d : Dictionary α) : d.names.Pairwise (· < ·) :=
  List.pairwise_map.mpr d.ascending

/-- Something is stored under a name exactly if looking it up gives a value. -/
theorem contains_iff {d : Dictionary α} {name : String} :
    d.contains name = true ↔ ∃ value, d.find? name = some value :=
  Option.isSome_iff_exists

/-! ### Orders of the entries -/

section

variable {entries others : List (String × α)} {name : String} {value : α}

/-- Among entries with different names, looking a name up finds its entry. -/
theorem lookup_eq_some_iff_mem (distinct : (entries.map (·.1)).Nodup) :
    entries.lookup name = some value ↔ (name, value) ∈ entries := by
  induction entries with
  | nil => simp
  | cons first rest ih =>
    obtain ⟨key, stored⟩ := first
    obtain ⟨unused, distinct⟩ := List.nodup_cons.mp distinct
    rw [lookup_cons_eq, List.mem_cons, Prod.mk.injEq]
    by_cases h : name = key
    · subst h
      have absent : (name, value) ∉ rest := fun member =>
        unused (List.mem_map.mpr ⟨(name, value), member, rfl⟩)
      simp [absent, eq_comm]
    · simp [h, ih distinct]

/-- Entries with different names are different. -/
theorem nodup_of_nodup_names (distinct : (entries.map (·.1)).Nodup) : entries.Nodup := by
  apply List.Pairwise.imp _ (List.pairwise_map.mp distinct)
  rintro a b apart rfl
  exact apart rfl

/-- In which order entries with different names stand makes no difference. -/
theorem lookup_perm (distinct : (entries.map (·.1)).Nodup) (same : others.Perm entries) :
    others.lookup name = entries.lookup name := by
  have distinct' : (others.map (·.1)).Nodup := (same.map (·.1)).nodup_iff.mpr distinct
  apply Option.ext
  intro value
  rw [lookup_eq_some_iff_mem distinct', lookup_eq_some_iff_mem distinct]
  exact same.mem_iff

end

/-- No two entries have one name. -/
theorem nodup_names (d : Dictionary α) : d.names.Nodup := by
  apply d.pairwise_names.imp
  rintro a b lower rfl
  exact String.lt_irrefl a lower

theorem find?_eq_some_iff {d : Dictionary α} {name : String} {value : α} :
    d.find? name = some value ↔ (name, value) ∈ d.entries :=
  lookup_eq_some_iff_mem d.nodup_names

/-- Entries in ascending order are given by what they hold. -/
theorem eq_of_perm {d e : Dictionary α} (same : d.entries.Perm e.entries) : d = e := by
  obtain ⟨entries, ascending⟩ := d
  obtain ⟨others, ascending'⟩ := e
  obtain rfl : entries = others := by
    apply List.Perm.eq_of_pairwise _ ascending ascending' same
    intro a b _ _ lower higher
    exact absurd higher (String.lt_asymm lower)
  rfl

/-- Dictionaries in which every name has the same value are equal. -/
theorem ext_find? {d e : Dictionary α} (same : ∀ name, d.find? name = e.find? name) : d = e := by
  have distinct (d : Dictionary α) : d.entries.Nodup := nodup_of_nodup_names d.nodup_names
  apply eq_of_perm
  apply (List.perm_ext_iff_of_nodup (distinct d) (distinct e)).mpr
  rintro ⟨name, value⟩
  rw [← find?_eq_some_iff, same, find?_eq_some_iff]

section

variable {entries : List (String × α)} (distinct : (entries.map (·.1)).Nodup)
include distinct

/-- A dictionary of entries with different names finds what they hold. -/
theorem find?_ofList (name : String) : (ofList entries).find? name = entries.lookup name := by
  rw [ofList, find?_insertAll, find?_empty, Option.or_none]
  exact lookup_perm distinct entries.reverse_perm

/-- A dictionary of entries with different names holds these and no others. -/
theorem entries_ofList_perm : (ofList entries).entries.Perm entries := by
  have distinct' := nodup_of_nodup_names (ofList entries).nodup_names
  apply (List.perm_ext_iff_of_nodup distinct' (nodup_of_nodup_names distinct)).mpr
  rintro ⟨name, value⟩
  rw [← find?_eq_some_iff, find?_ofList distinct, lookup_eq_some_iff_mem distinct]

/-- Entries with different names make one dictionary in any order. -/
theorem ofList_perm {others : List (String × α)} (same : others.Perm entries) :
    ofList others = ofList entries := by
  have distinct' : (others.map (·.1)).Nodup := (same.map (·.1)).nodup_iff.mpr distinct
  apply ext_find?
  intro name
  rw [find?_ofList distinct', find?_ofList distinct, lookup_perm distinct same]

end

end Dictionary

end SqlMapper
