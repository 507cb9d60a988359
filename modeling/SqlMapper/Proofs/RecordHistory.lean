/-
Module: SqlMapper.Proofs.RecordHistory
Purpose: What a record shows of the values that were stored in it, however it was built.
Main exports: Change, Change.apply, Record.applyAll, storedBy, Shows, shows_ofList,
  applyAll_eq_ofList, Source.Holds, Source.lookup_of_holds, last_write_wins
-/
import Mathlib
import SqlMapper.Parameter.Record

namespace SqlMapper.Parameter

/-!
A record keeps one entry for each name, in the order of the names, and nothing of the
order in which values were stored. So all that can be seen of it follows from the pairs
that were stored since it was begun: the last pair of a name decides, and a name counts
once, with a text or without one. The fields of a JSON object have different names, so
that a record of them is the same in any order, and finds what other sources with these
fields find when they are asked.
-/

/-! ### Changes -/

/-- Something that is done to a record: a value is stored under a name, in place or in a
chain of calls; a name is declared null; or a new record is collected from pairs. -/
inductive Change where
  | insert (name : String) (value : Value)
  | insertNull (name : String)
  | collect (pairs : List (String × Value))
deriving Repr, Inhabited

/-- The record after a change. -/
def Change.apply (r : Record) : Change → Record
  | .insert name value => r.insert name value
  | .insertNull name => r.insertNull name
  | .collect pairs => Record.ofList pairs

/-- The record after changes, one after the other. -/
def Record.applyAll (r : Record) (changes : List Change) : Record :=
  changes.foldl Change.apply r

/-- The pairs that are stored after a change, in the order in which they were stored. -/
def Change.stored (before : List (String × Value)) : Change → List (String × Value)
  | .insert name value => before ++ [(name, value)]
  | .insertNull name => before ++ [(name, .null)]
  | .collect pairs => pairs

/-- The pairs that are stored by changes to a record without entries. -/
def storedBy (changes : List Change) : List (String × Value) :=
  changes.foldl Change.stored []

/-- A value that is null, as it is or as a JSON value. -/
def Value.IsNull (value : Value) : Prop := value = .null ∨ value = .json .null

/-- The value that stands for a text in the JSON object of a record. -/
def dumpedText : Option String → Json.Value
  | some text => .string text
  | none => .null

/-- A record shows the pairs that were stored in it: the last pair of each name is found,
and the names are counted and listed once each, in ascending order. -/
structure Shows (r : Record) (stored : List (String × Value)) : Prop where
  last : ∀ before name value after, stored = before ++ (name, value) :: after →
    name ∉ after.map (·.1) → r.lookup name = value.text?
  never : ∀ name, name ∉ stored.map (·.1) → r.lookup name = none
  contains : ∀ name, r.contains name = true ↔ name ∈ stored.map (·.1)
  size : r.size = (stored.map (·.1)).dedup.length
  dump : ∃ fields, r.toJson = .object fields
    ∧ (fields.map (·.1)).Pairwise (· < ·)
    ∧ (∀ name, name ∈ fields.map (·.1) ↔ name ∈ stored.map (·.1))
    ∧ ∀ name ∈ stored.map (·.1), fields.lookup name = some (dumpedText (r.lookup name))

theorem Value.text?_eq_none_iff {value : Value} : value.text? = none ↔ value.IsNull := by
  cases value with
  | json value => cases value <;> simp [Value.text?, jsonText?, Value.IsNull]
  | _ => simp [Value.text?, Value.IsNull]

namespace Record

variable {stored : List (String × Value)}

/-! ### Records of pairs -/

theorem values_insertAll (r : Record) (entries : List (String × Value)) :
    (r.insertAll entries).values
      = r.values.insertAll (entries.map fun entry => (entry.1, entry.2.text?)) := by
  rw [insertAll, Dictionary.insertAll, List.foldl_map]
  induction entries generalizing r with
  | nil => rfl
  | cons first rest ih => exact ih (r.insert first.1 first.2)

theorem ofList_append (entries others : List (String × Value)) :
    ofList (entries ++ others) = (ofList entries).insertAll others :=
  List.foldl_append

theorem mem_names_ofList {name : String} :
    name ∈ (ofList stored).values.names ↔ name ∈ stored.map (·.1) := by
  have names : (stored.map fun entry => (entry.1, entry.2.text?)).map (·.1)
      = stored.map (·.1) := List.map_map
  rw [← names]
  exact values_insertAll empty stored ▸ Dictionary.mem_names_ofList

/-- The dump of a record lists its entries. -/
theorem dump_of_record (r : Record) :
    ∃ fields, r.toJson = .object fields ∧ fields.map (·.1) = r.values.names
      ∧ ∀ name ∈ r.values.names, fields.lookup name = some (dumpedText (r.lookup name)) := by
  refine ⟨r.values.entries.map fun entry => (entry.1, dumpedText entry.2), ?_, ?_, ?_⟩
  · apply congrArg Json.Value.object
    apply List.map_congr_left
    rintro ⟨name, text⟩ _
    cases text <;> rfl
  · exact List.map_map
  · intro name member
    obtain ⟨text, found⟩ := Dictionary.mem_names_iff.mp member
    have shown : r.lookup name = text := congrArg Option.join found
    rw [Dictionary.lookup_map_values, shown]
    exact congrArg (Option.map dumpedText) found

/-- A record that is collected from pairs shows them. -/
theorem shows_ofList (stored : List (String × Value)) : Shows (ofList stored) stored where
  last := by
    rintro before name value after rfl single
    exact lookup_insertAll single empty
  never name absent := lookup_insertAll_of_not_mem absent empty
  contains name := by
    rw [contains, Dictionary.contains_iff, ← Dictionary.mem_names_iff]
    exact mem_names_ofList
  size := by
    have same : (ofList stored).values.names.Perm (stored.map (·.1)).dedup := by
      apply (List.perm_ext_iff_of_nodup (Dictionary.nodup_names _) (List.nodup_dedup _)).mpr
      intro name
      rw [List.mem_dedup]
      exact mem_names_ofList
    rw [← same.length_eq]
    exact (List.length_map _).symm
  dump := by
    obtain ⟨fields, dumped, names, values⟩ := dump_of_record (ofList stored)
    refine ⟨fields, dumped, ?_, ?_, ?_⟩
    · rw [names]
      exact Dictionary.pairwise_names _
    · intro name
      rw [names]
      exact mem_names_ofList
    · intro name member
      exact values name (mem_names_ofList.mpr member)

/-- A change to a record of pairs leaves the record of the pairs that are stored then. -/
theorem apply_ofList (change : Change) :
    change.apply (ofList stored) = ofList (change.stored stored) := by
  cases change with
  | insert name value => exact (ofList_append stored [(name, value)]).symm
  | insertNull name => exact (ofList_append stored [(name, .null)]).symm
  | collect pairs => rfl

/-- Changes leave the record of the pairs that are stored in the end. -/
theorem applyAll_eq_ofList (changes : List Change) :
    empty.applyAll changes = ofList (storedBy changes) := by
  have course : ∀ stored : List (String × Value),
      (ofList stored).applyAll changes = ofList (changes.foldl Change.stored stored) := by
    induction changes with
    | nil => exact fun stored => rfl
    | cons change rest ih =>
      intro stored
      rw [applyAll, List.foldl_cons, apply_ofList]
      exact ih (change.stored stored)
  exact course []

end Record

/-! ### Fields of JSON objects -/

/-- The pairs of a JSON object. -/
def pairsOf (fields : List (String × Json.Value)) : List (String × Value) :=
  fields.map fun field => (field.1, .json field.2)

theorem values_ofList_pairsOf (fields : List (String × Json.Value)) :
    (Record.ofList (pairsOf fields)).values
      = Dictionary.ofList (fields.map fun field => (field.1, jsonText? field.2)) := by
  have texts : (pairsOf fields).map (fun pair => (pair.1, pair.2.text?))
      = fields.map fun field => (field.1, jsonText? field.2) := List.map_map
  rw [← texts]
  exact Record.values_insertAll .empty (pairsOf fields)

/-- The texts of fields are looked up as the fields are. -/
theorem join_lookup_texts (fields : List (String × Json.Value)) (name : String) :
    ((fields.map fun field => (field.1, jsonText? field.2)).lookup name).join
      = (fields.lookup name).bind jsonText? := by
  rw [Dictionary.lookup_map_values]
  cases fields.lookup name <;> rfl

/-- A source holds fields: as an object, as a map of values or of their texts, whatever
the order, or as a record of them; and so does an option or a pointer with such a source. -/
inductive Source.Holds (fields : List (String × Json.Value)) : Source → Prop where
  | json {order : List (String × Json.Value)} (same : order.Perm fields) :
      Source.Holds fields (.json (.object order))
  | map {entries : Dictionary Json.Value} (same : entries.entries.Perm fields) :
      Source.Holds fields (.map entries)
  | texts {entries : Dictionary (Option String)}
      (same : entries.entries.Perm (fields.map fun field => (field.1, jsonText? field.2))) :
      Source.Holds fields (.texts entries)
  | record {r : Record} (read : Record.ofJson (.object fields) = .ok r) :
      Source.Holds fields (.record r)
  | optional {source : Source} (held : Source.Holds fields source) :
      Source.Holds fields (.optional (some source))
  | behind {source : Source} (held : Source.Holds fields source) :
      Source.Holds fields (.behind source)

section

variable {fields : List (String × Json.Value)} (distinct : (fields.map (·.1)).Nodup)
include distinct

theorem nodup_names_texts :
    ((fields.map fun field => (field.1, jsonText? field.2)).map (·.1)).Nodup := by
  rwa [List.map_map]

/-- Fields with different names make one record in any order. -/
theorem ofList_pairsOf_perm {order : List (String × Json.Value)} (same : order.Perm fields) :
    Record.ofList (pairsOf order) = Record.ofList (pairsOf fields) := by
  have values : (Record.ofList (pairsOf order)).values
      = (Record.ofList (pairsOf fields)).values := by
    rw [values_ofList_pairsOf, values_ofList_pairsOf]
    exact Dictionary.ofList_perm (nodup_names_texts distinct) (same.map _)
  exact congrArg Record.mk values

/-- However a source holds fields, it finds the text of each. -/
theorem Source.lookup_of_holds {source : Source} (held : source.Holds fields) (name : String) :
    source.lookup name = (fields.lookup name).bind jsonText? := by
  induction held with
  | json same =>
    exact congrArg (Option.bind · jsonText?) (Dictionary.lookup_perm distinct same)
  | map same =>
    exact congrArg (Option.bind · jsonText?) (Dictionary.lookup_perm distinct same)
  | texts same =>
    rw [← join_lookup_texts]
    exact congrArg Option.join (Dictionary.lookup_perm (nodup_names_texts distinct) same)
  | record read =>
    cases read
    have found := Dictionary.find?_ofList (nodup_names_texts distinct) name
    rw [← values_ofList_pairsOf] at found
    rw [← join_lookup_texts]
    exact congrArg Option.join found
  | optional held ih => exact ih
  | behind held ih => exact ih

end

/-- A record shows the last value of each name that was stored in it, by whatever changes:
its text, or nothing if it is null or the name was never stored; whether the name was ever
stored, null or not; how many names were; and these names in ascending order, once each.
A JSON value makes a record exactly if it is an object. If its fields have different names,
as those of every object that was read have, this is the record in which they are stored one
by one in any order, and it finds what the object itself and every other source with these
fields finds, be it a map or a record, an option or a pointer. -/
theorem last_write_wins (changes : List Change) (v : Json.Value) :
    Shows (Record.empty.applyAll changes) (storedBy changes)
      ∧ (∀ value : Value, value.text? = none ↔ value.IsNull)
      ∧ (Record.ofJson v = .error (.notAnObject (jsonKind v)) ↔ ∀ fields, v ≠ .object fields)
      ∧ ∀ fields, v = .object fields → (fields.map (·.1)).Nodup →
          ∃ r, Record.ofJson v = .ok r
            ∧ (∀ order : List (String × Json.Value), order.Perm fields →
              Record.empty.applyAll (order.map fun field => .insert field.1 (.json field.2)) = r)
            ∧ ∀ source : Source, source.Holds fields → source.lookup = r.lookup := by
  refine ⟨?_, fun value => Value.text?_eq_none_iff, ?_, ?_⟩
  · rw [Record.applyAll_eq_ofList]
    exact Record.shows_ofList _
  · cases v with
    | object fields => simp [Record.ofJson]
    | _ => simp [Record.ofJson]
  · rintro fields rfl distinct
    refine ⟨Record.ofList (pairsOf fields), rfl, ?_, ?_⟩
    · intro order same
      rw [← ofList_pairsOf_perm distinct same, Record.applyAll, List.foldl_map, pairsOf,
        Record.ofList, Record.insertAll, List.foldl_map]
      rfl
    · intro source held
      funext name
      have own : (Source.record (Record.ofList (pairsOf fields))).Holds fields := .record rfl
      have found := Source.lookup_of_holds distinct own name
      exact (Source.lookup_of_holds distinct held name).trans found.symm

/-- A text that names a field twice. -/
private def twiceNamed : String := "\x7b\"b\": \"x\", \"a\": null, \"b\": [true]\x7d"

/-- The fields of that text. -/
private def twiceNamedFields : List (String × Json.Value) :=
  [("a", .null), ("b", .array [.boolean true])]

/-- Names that are stored over and over, and fields that are stored backwards and held
behind a pointer to an option. -/
theorem last_write_wins_mixed :
    let changes : List Change := [.insert "x" (.integer 1), .collect [("b", .string "é"),
      ("a", .null), ("b", .boolean true)], .insertNull "b", .insert "Z" (.character 'q'),
      .insert "a" (.boolean false)]
    let r := Record.empty.applyAll changes
    let source : Source := .behind (.optional (some (.map (Dictionary.ofList twiceNamedFields))))
    Json.Value.read? twiceNamed = some (.object twiceNamedFields)
      ∧ r.lookup "a" = some "false" ∧ r.lookup "b" = none ∧ r.contains "b" = true
      ∧ r.lookup "x" = none ∧ r.contains "x" = false ∧ r.size = 3
      ∧ ∃ read, Record.ofJson (.object twiceNamedFields) = .ok read
        ∧ Record.empty.applyAll
          (twiceNamedFields.reverse.map fun field => .insert field.1 (.json field.2)) = read
        ∧ source.lookup = read.lookup := by
  intro changes r source
  have text : Json.Value.read? twiceNamed = some (.object twiceNamedFields) := by cbv
  have distinct : (twiceNamedFields.map (·.1)).Nodup := by
    apply (Json.Value.pairwise_names_of_read? text).imp
    rintro a b lower rfl
    exact String.lt_irrefl a lower
  have held : source.Holds twiceNamedFields :=
    .behind (.optional (.map (Dictionary.entries_ofList_perm distinct)))
  obtain ⟨shows, -, -, object⟩ := last_write_wins changes (.object twiceNamedFields)
  obtain ⟨read, made, stored, found⟩ := object twiceNamedFields rfl distinct
  refine ⟨text, ?_, ?_, ?_, ?_, ?_, ?_, read, made, stored _ (List.reverse_perm _),
    found source held⟩
  · exact shows.last [("b", .string "é"), ("a", .null), ("b", .boolean true), ("b", .null),
      ("Z", .character 'q')] "a" (.boolean false) [] rfl (by simp)
  · exact shows.last [("b", .string "é"), ("a", .null), ("b", .boolean true)] "b" .null
      [("Z", .character 'q'), ("a", .boolean false)] rfl (by simp)
  · exact (shows.contains "b").mpr (by decide)
  · exact shows.never "x" (by decide)
  · exact Bool.eq_false_iff.mpr fun there => absurd ((shows.contains "x").mp there) (by decide)
  · exact shows.size.trans (by decide)

end SqlMapper.Parameter
