/-
Module: SqlMapper.Proofs.ScalarTexts
Purpose: Whether the text of a value depends on how the value was put into a record.
Main exports: Scalar, Scalar.SameText, text?_native_iff, AgreeOn, scalar_texts_agree_iff
-/
import SqlMapper.Parameter.Record
import SqlMapper.Proofs.Comparison
import SqlMapper.Proofs.ShortestDecimals

namespace SqlMapper.Number

/-- Units are the magnitude of a finite number of the format: they need no more bits than
it has, and are within its range. -/
structure Format.IsMagnitude (f : Format) (units : Nat) : Prop where
  multiple : f.spacing units ∣ units
  finite : units < f.limit

end SqlMapper.Number

namespace SqlMapper.Parameter

open SqlMapper.Condition SqlMapper.Number

/-!
A value can be put into a record as it is, or as a JSON value: stored under a name, or
among the fields of an object or of a record that is converted to one. As JSON values
all of them have one text. As it is, an integer, a truth value or a string has the same
text, but a double is written in another style: whole numbers lose their fraction, and
with it tests become comparisons of numbers.
-/

/-! ### Scalars -/

/-- A value without parts: an integer that fits in 64 bits, signed or unsigned, a truth
value, a string, or a finite double. -/
inductive Scalar where
  | integer (value : Int) (fits : -2 ^ 63 ≤ value ∧ value < 2 ^ 64)
  | boolean (value : Bool)
  | string (text : String)
  | double (negative : Bool) (units : Nat) (magnitude : Format.double.IsMagnitude units)

namespace Scalar

/-- The value as it is. -/
def native : Scalar → Value
  | .integer n _ => .integer n
  | .boolean value => .boolean value
  | .string text => .string text
  | .double negative units _ => .double (.finite negative units)

/-- The value as a JSON value. -/
def json : Scalar → Json.Value
  | .integer n _ => .integer n
  | .boolean value => .boolean value
  | .string text => .string text
  | .double negative units _ => .double (.finite negative units)

/-- What a double has to fulfil so that both its texts are the same: it has a fraction,
is not below `0.00001`, and where two shortest decimals are equally near, the upper one
is the even one. -/
def SameText : Scalar → Prop
  | .double _ units _ =>
      ¬ 2 ^ Format.double.fraction ∣ units
        ∧ 2 ^ Format.double.fraction ≤ 10 ^ 5 * units
        ∧ shortest Format.double true units = shortest Format.double false units
  | _ => True

theorem text?_native_iff (x : Scalar) : x.native.text? = jsonText? x.json ↔ x.SameText := by
  cases x with
  | integer n fits => exact iff_of_true rfl trivial
  | boolean value => exact iff_of_true (by cases value <;> rfl) trivial
  | string text => exact iff_of_true rfl trivial
  | double negative units magnitude =>
    have shown : jsonText? (.double (.finite negative units))
        = some (Binary.text Style.json (.finite negative units : Double)) := by
      show some (String.ofList (Binary.text Style.json _).toList) = _
      rw [String.ofList_toList]
    rw [native, json, Value.text?, shown, Option.some.injEq, Binary.text, Binary.text,
      String.ofList_inj, List.append_cancel_left_eq]
    exact magnitudeText_plain_eq_json_iff magnitude.multiple

end Scalar

/-! ### Records -/

/-- Two bags have the same text under a name, and so every test of it has the same outcome. -/
structure AgreeOn (name : String) (bag other : Bag) : Prop where
  text : bag name = other name
  outcomes : ∀ e : Expression, e.property = name → e.evaluate bag = e.evaluate other
  tests : ∀ text e, Expression.parse text = .ok e → e.property = name →
    test text bag = test text other

theorem agreeOn_iff {name : String} {bag other : Bag} :
    AgreeOn name bag other ↔ bag name = other name := by
  constructor
  · exact AgreeOn.text
  · intro same
    have outcomes (e : Expression) (named : e.property = name) :
        e.evaluate bag = e.evaluate other := by
      rw [Expression.evaluate, Expression.evaluate, named, same]
    refine ⟨same, outcomes, ?_⟩
    intro text e read named
    rw [test, test, read]
    exact outcomes e named

namespace Record

/-- The fields of a record with texts for keys are converted as they are. -/
theorem ofFields_text (fields : List (String × Json.Value)) :
    ofFields (fields.map fun field => (.text field.1, field.2)) = ofJson (.object fields) := by
  have names : (fields.map fun field => (FieldKey.text field.1, field.2)).mapM
      (fun field => field.1.name?.map (·, field.2)) = some fields := by
    induction fields with
    | nil => rfl
    | cons first rest ih =>
      rw [List.map_cons, List.mapM_cons, ih]
      rfl
  rw [ofFields, names]

end Record

/-- However a scalar is put in as a JSON value (stored under its name, or as the last
field of that name in an object or in a record that is converted to one), its text and
the outcomes of all tests of it are the same. They are also those of the scalar as it is
if it is an integer, a truth value or a string; for a double, exactly if it is no whole
number and not below `0.00001` and a tie between two shortest decimals goes to the same
one in both styles. -/
theorem scalar_texts_agree_iff (x : Scalar) (name : String)
    (before : List (String × Json.Value)) {after : List (String × Json.Value)}
    (single : name ∉ after.map (·.1)) (r s : Record) :
    let fields := before ++ (name, x.json) :: after
    let native := (r.insert name x.native).lookup
    let stored := (s.insert name (.json x.json)).lookup
    ∃ parsed serialized : Record,
      Record.ofJson (.object fields) = .ok parsed
        ∧ Record.ofFields (fields.map fun field => (.text field.1, field.2)) = .ok serialized
        ∧ ∀ bag ∈ [stored, parsed.lookup, serialized.lookup],
          AgreeOn name stored bag ∧ (AgreeOn name native bag ↔ x.SameText) := by
  intro fields native stored
  have absent : name ∉ (after.map fun field => (field.1, Value.json field.2)).map (·.1) := by
    rwa [List.map_map]
  let record := Record.ofList (fields.map fun field => (field.1, .json field.2))
  have read : Record.ofJson (.object fields) = .ok record := rfl
  refine ⟨record, record, read, (Record.ofFields_text fields).trans read, ?_⟩
  have nativeText : native name = x.native.text? := r.lookup_insert_self name x.native
  have storedText : stored name = jsonText? x.json := s.lookup_insert_self name (.json x.json)
  have recordText : record.lookup name = jsonText? x.json := by
    show (Record.empty.insertAll _).lookup name = _
    rw [List.map_append, List.map_cons, Record.lookup_insertAll absent, Value.text?]
  have sameText : ∀ bag ∈ [stored, record.lookup, record.lookup], bag name = jsonText? x.json := by
    intro bag member
    simp only [List.mem_cons, List.not_mem_nil, or_false] at member
    rcases member with rfl | rfl | rfl
    · exact storedText
    · exact recordText
    · exact recordText
  intro bag member
  rw [agreeOn_iff, agreeOn_iff, sameText bag member, storedText, nativeText]
  exact ⟨rfl, x.text?_native_iff⟩

/-- Two and a half. -/
private def twoAndAHalf : Scalar :=
  .double false (5 * 2 ^ 1073) ⟨by decide +kernel, by decide +kernel⟩

/-- Fifteen, as a double. -/
private def fifteen : Scalar :=
  .double false (15 * 2 ^ 1074) ⟨by decide +kernel, by decide +kernel⟩

/-- Two and a half has one text, and the field of an object that is read last decides. -/
theorem scalar_texts_agree_iff_fraction :
    let fields : List (String × Json.Value) :=
      [("price", .null), ("price", twoAndAHalf.json), ("name", .string "Jane")]
    ∃ parsed : Record, Record.ofJson (.object fields) = .ok parsed
      ∧ parsed.lookup "price" = some "2.5"
      ∧ AgreeOn "price" (Record.empty.insert "price" twoAndAHalf.native).lookup parsed.lookup := by
  intro fields
  obtain ⟨parsed, serialized, read, -, agree⟩ :=
    scalar_texts_agree_iff twoAndAHalf "price" [("price", .null)]
      (show "price" ∉ [("name", Json.Value.string "Jane")].map (·.1) by decide)
      Record.empty Record.empty
  have same := ((agree parsed.lookup (by simp)).2).mpr
    ⟨by decide +kernel, by decide +kernel, by decide +kernel⟩
  refine ⟨parsed, read, ?_, same⟩
  rw [← same.text]
  decide +kernel

/-- Fifteen is `15` as a double and `15.0` as a JSON value; a test compares the first as
a number, and the second as a text. -/
theorem whole_double_texts_differ :
    let native := (Record.empty.insert "p" fifteen.native).lookup
    let stored := (Record.empty.insert "p" (.json fifteen.json)).lookup
    native "p" = some "15" ∧ stored "p" = some "15.0"
      ∧ test "p > 10" native = .ok true ∧ test "p > 10" stored = .ok false := by
  refine ⟨?_, ?_, ?_, ?_⟩ <;> decide +kernel

end SqlMapper.Parameter
