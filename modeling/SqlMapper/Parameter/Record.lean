/-
Module: SqlMapper.Parameter.Record
Purpose: Owned parameter records, and the other sources of parameters.
Main exports: Record, Record.lookup, Record.insert, Record.ofJson, Record.ofFields, RecordError,
  Record.lookup_insert, Record.lookup_insertAll, Source
-/
import SqlMapper.Parameter.Value

namespace SqlMapper.Parameter

/-!
A record stores the text of each value under its name when the value is put in;
a null value is stored as a name without a text, so that it counts among the
entries although looking it up gives nothing. Other sources convert a value
each time it is looked up.
-/

/-- Parameters by name; a name without a text is declared null. -/
structure Record where
  values : Dictionary (Option String)
deriving Repr, Inhabited, DecidableEq

/-- Why a parameter record cannot be built. -/
inductive RecordError where
  | notAnObject (kind : String)
  | unnamedField
deriving Repr, Inhabited, DecidableEq

/-- The message for a parameter record that cannot be built. -/
def RecordError.message : RecordError → String
  | .notAnObject kind => s!"Parameter record must serialize to an object, got {kind}"
  | .unnamedField => "Failed to serialize parameter record: key must be a string"

/-- The key of a field of a record, before it is the name of a parameter. -/
inductive FieldKey where
  | text (name : String)
  | integer (value : Int)
  | compound
deriving Repr, Inhabited, DecidableEq

/-- The name that a key stands for: a text or an integer. -/
def FieldKey.name? : FieldKey → Option String
  | .text name => some name
  | .integer n => some (String.ofList (Json.Value.integerText n))
  | .compound => none

/-- What kind of JSON value this is. -/
def jsonKind : Json.Value → String
  | .null => "null"
  | .boolean _ => "a boolean"
  | .integer _ | .double _ => "a number"
  | .string _ => "a string"
  | .array _ => "an array"
  | .object _ => "an object"

namespace Record

/-- The record without entries. -/
def empty : Record := ⟨∅⟩

/-- Store a value under a name, in place of what was there before. -/
def insert (r : Record) (name : String) (value : Value) : Record :=
  ⟨r.values.insert name value.text?⟩

/-- Declare a name with a null value. -/
def insertNull (r : Record) (name : String) : Record := r.insert name .null

/-- The text stored under a name. -/
def lookup (r : Record) : Bag := fun name => (r.values.find? name).join

/-- Whether something is stored under a name, null or not. -/
def contains (r : Record) (name : String) : Bool := r.values.contains name

/-- The number of names. -/
def size (r : Record) : Nat := r.values.size

/-- Store entries one after the other. -/
def insertAll (r : Record) (entries : List (String × Value)) : Record :=
  entries.foldl (fun r entry => r.insert entry.1 entry.2) r

/-- The record of a list of entries; the last value of a name stays. -/
def ofList (entries : List (String × Value)) : Record := empty.insertAll entries

/-- The record of the fields of a JSON object. -/
def ofJson : Json.Value → Except RecordError Record
  | .object fields => .ok (ofList (fields.map fun field => (field.1, .json field.2)))
  | value => .error (.notAnObject (jsonKind value))

/-- The record of fields, every key of which has to stand for a name. -/
def ofFields (fields : List (FieldKey × Json.Value)) : Except RecordError Record :=
  match fields.mapM fun field => field.1.name?.map (·, field.2) with
  | some fields => ofJson (.object fields)
  | none => .error .unnamedField

/-- The entries as a JSON object of texts and nulls. -/
def toJson (r : Record) : Json.Value :=
  .object (r.values.entries.map fun entry =>
    (entry.1, match entry.2 with
      | some text => .string text
      | none => .null))

section

variable {name : String} {value : Value} {before after entries : List (String × Value)}

theorem lookup_insert (r : Record) (name other : String) (value : Value) :
    (r.insert name value).lookup other = if other = name then value.text? else r.lookup other := by
  rw [lookup, insert, Dictionary.find?_insert]
  split <;> rfl

theorem lookup_insert_self (r : Record) (name : String) (value : Value) :
    (r.insert name value).lookup name = value.text? := by
  rw [lookup_insert, if_pos rfl]

theorem lookup_insertAll_of_not_mem (absent : name ∉ entries.map (·.1)) (r : Record) :
    (r.insertAll entries).lookup name = r.lookup name := by
  induction entries generalizing r with
  | nil => rfl
  | cons first rest ih =>
    rw [List.map_cons, List.mem_cons, not_or] at absent
    have further : r.insertAll (first :: rest) = (r.insert first.1 first.2).insertAll rest := rfl
    rw [further, ih absent.2, lookup_insert, if_neg absent.1]

/-- The last of several entries of one name decides. -/
theorem lookup_insertAll (single : name ∉ after.map (·.1)) (r : Record) :
    (r.insertAll (before ++ (name, value) :: after)).lookup name = value.text? := by
  have order : r.insertAll (before ++ (name, value) :: after)
      = ((r.insertAll before).insert name value).insertAll after := by
    rw [insertAll, List.foldl_append, List.foldl_cons]
    rfl
  rw [order, lookup_insertAll_of_not_mem single, lookup_insert_self]

end

end Record

/-- Where the parameters of a template come from; a source may be missing, and it may
stand behind a pointer or a reference. -/
inductive Source where
  | nothing
  | json (value : Json.Value)
  | map (entries : Dictionary Json.Value)
  | texts (entries : Dictionary (Option String))
  | record (r : Record)
  | optional (source : Option Source)
  | behind (source : Source)
deriving Inhabited

namespace Source

/-- The value of a name; only JSON objects carry names. -/
def lookup : Source → Bag
  | .nothing => Bag.none
  | .json value => fun name => (value.field? name).bind jsonText?
  | .map entries => fun name => (entries.find? name).bind jsonText?
  | .texts entries => fun name => (entries.find? name).join
  | .record r => r.lookup
  | .optional none => Bag.none
  | .optional (some source) => source.lookup
  | .behind source => source.lookup

end Source

end SqlMapper.Parameter
