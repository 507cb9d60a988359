/-
Module: SqlMapper.Proofs.ParameterOverlay
Purpose: What the parameters of a run are, when a file and the command line give them.
Main exports: Gives, IsMalformed, FileHolds, FileFault, Collects, collects_collectParameters,
  pairs_overlay_file
-/
import Mathlib
import SqlMapper.CommandLine.Parameters
import SqlMapper.Proofs.RecordHistory
import SqlMapper.Proofs.VariableFiles

namespace SqlMapper.CommandLine

open SqlMapper.Files SqlMapper.Parameter SqlMapper.Text

/-!
A pair gives a value to a name or is malformed, whatever stands before and behind it. So
collecting parameters ends in one of three ways: at a fault of the file, at the first
malformed pair, or with the record in which the fields of the file are stored and then
what the pairs give. What such a record shows is known from the pairs that are stored.
-/

/-! ### Pairs -/

/-- A pair gives a value to a name: the value is all that follows the first equals sign,
and the name is what stands before the sign, without the blanks around it. -/
structure Gives (pair name value : String) : Prop where
  parts : ∃ before, pair.toList = before ++ '=' :: value.toList ∧ '=' ∉ before
    ∧ trim before = name.toList
  named : name ≠ ""

/-- A pair without an equals sign, or with nothing but blanks before the first. -/
def IsMalformed (pair : String) : Prop :=
  '=' ∉ pair.toList
    ∨ ∃ before after, pair.toList = before ++ '=' :: after ∧ isBlankText before = true

/-- The values that pairs give to names are texts. -/
def given (assignments : List (String × String)) : List (String × Value) :=
  assignments.map fun assignment => (assignment.1, .string assignment.2)

section Pairs

variable {pair name value : String} {pairs : List String} {assignments : List (String × String)}

theorem readPair_of_gives (gives : Gives pair name value) : readPair pair = .ok (name, value) := by
  obtain ⟨before, whole, free, trimmed⟩ := gives.parts
  have named : name.toList ≠ [] := by
    rw [Ne, String.toList_eq_nil_iff]
    exact gives.named
  rw [readPair, whole, cutAt?_append free]
  simp [trimmed, named]

theorem readPair_of_isMalformed (bad : IsMalformed pair) :
    readPair pair = .error (.malformedPair pair) := by
  rcases bad with unsigned | ⟨before, after, whole, blanks⟩
  · rw [readPair, cutAt?_eq_none_iff.mpr unsigned]
  · have free : '=' ∉ before := fun member =>
      absurd (isBlankText_iff.mp blanks '=' member) (by decide)
    rw [readPair, whole, cutAt?_append free]
    simp [trim_eq_nil_iff.mpr blanks]

theorem gives_or_isMalformed (pair : String) :
    (∃ name value, Gives pair name value) ∨ IsMalformed pair := by
  cases cut : cutAt? '=' pair.toList with
  | none => exact .inr (.inl (cutAt?_eq_none_iff.mp cut))
  | some parts =>
    obtain ⟨before, after⟩ := parts
    obtain ⟨whole, free⟩ := cutAt?_eq_some cut
    by_cases blanks : isBlankText before = true
    · exact .inr (.inr ⟨before, after, whole, blanks⟩)
    · refine .inl ⟨String.ofList (trim before), String.ofList after, ⟨before, ?_, free, ?_⟩, ?_⟩
      · rw [whole, String.toList_ofList]
      · exact String.toList_ofList.symm
      · rw [← trim_eq_nil_iff] at blanks
        simpa [← String.toList_inj] using blanks

theorem Gives.unique (gives : Gives pair name value) {name' value' : String}
    (other : Gives pair name' value') : name = name' ∧ value = value' := by
  have same := (readPair_of_gives gives).symm.trans (readPair_of_gives other)
  simpa using same

theorem Gives.not_isMalformed (gives : Gives pair name value) : ¬ IsMalformed pair := by
  intro bad
  have same := (readPair_of_gives gives).symm.trans (readPair_of_isMalformed bad)
  cases same

/-- Pairs give these assignments, one each. -/
def GiveAll (pairs : List String) (assignments : List (String × String)) : Prop :=
  List.Forall₂ (fun pair assignment => Gives pair assignment.1 assignment.2) pairs assignments

/-- Pairs that give something are put into a record in order, before those behind them. -/
theorem insertPairs_append (giving : GiveAll pairs assignments) (r : Record)
    (rest : List String) :
    insertPairs r (pairs ++ rest) = insertPairs (r.insertAll (given assignments)) rest := by
  induction giving generalizing r with
  | nil => rfl
  | @cons pair assignment pairs assignments gives giving ih =>
    rw [List.cons_append, insertPairs, readPair_of_gives gives]
    exact ih (r.insert assignment.1 (.string assignment.2))

/-- All pairs give something, or there is a first that is malformed. -/
theorem giveAll_or_isMalformed (pairs : List String) :
    (∃ assignments, GiveAll pairs assignments)
      ∨ ∃ before bad after assignments, pairs = before ++ bad :: after
        ∧ GiveAll before assignments ∧ IsMalformed bad := by
  induction pairs with
  | nil => exact .inl ⟨[], .nil⟩
  | cons pair rest ih =>
    rcases gives_or_isMalformed pair with ⟨name, value, gives⟩ | bad
    · rcases ih with ⟨assignments, giving⟩ | ⟨before, bad, after, assignments, rfl, giving, h⟩
      · exact .inl ⟨(name, value) :: assignments, .cons gives giving⟩
      · exact .inr ⟨pair :: before, bad, after, (name, value) :: assignments, rfl,
          .cons gives giving, h⟩
    · exact .inr ⟨[], pair, rest, [], rfl, .nil, bad⟩

theorem GiveAll.not_isMalformed (giving : GiveAll pairs assignments) :
    ∀ pair ∈ pairs, ¬ IsMalformed pair := by
  induction giving with
  | nil => simp
  | cons gives giving ih => exact List.forall_mem_cons.mpr ⟨gives.not_isMalformed, ih⟩

theorem exists_giveAll (sound : ∀ pair ∈ pairs, ¬ IsMalformed pair) :
    ∃ assignments, GiveAll pairs assignments := by
  rcases giveAll_or_isMalformed pairs with all | ⟨before, bad, after, _, rfl, -, h⟩
  · exact all
  · exact absurd h (sound bad (by simp))

/-- A name has an assignment exactly if one of the pairs gives it something. -/
theorem GiveAll.mem_names_iff (giving : GiveAll pairs assignments) :
    name ∈ (given assignments).map (·.1) ↔ ∃ pair ∈ pairs, ∃ value, Gives pair name value := by
  induction giving with
  | nil => simp [given]
  | @cons pair assignment pairs assignments gives giving ih =>
    have first : name = assignment.1 ↔ ∃ value, Gives pair name value := by
      constructor
      · rintro rfl
        exact ⟨assignment.2, gives⟩
      · rintro ⟨value, other⟩
        exact (other.unique gives).1
    simp only [List.mem_cons, exists_eq_or_imp]
    rw [← first, ← ih]
    exact List.mem_cons

/-- A pair in the midst of others has its assignment in the midst of theirs. -/
theorem GiveAll.split {before after : List String}
    (giving : GiveAll (before ++ pair :: after) assignments) (gives : Gives pair name value) :
    ∃ earlier later, assignments = earlier ++ (name, value) :: later ∧ GiveAll after later := by
  induction before generalizing assignments with
  | nil =>
    cases giving with
    | cons own later =>
      obtain ⟨rfl, rfl⟩ := own.unique gives
      exact ⟨[], _, rfl, later⟩
  | cons first before ih =>
    cases giving with
    | cons own rest =>
      obtain ⟨earlier, later, rfl, behind⟩ := ih rest
      exact ⟨_ :: earlier, later, rfl, behind⟩

end Pairs

/-! ### Files -/

/-- A file of parameters holds a JSON object with these fields; without a file there
are none. -/
def FileHolds (files : FileTree) (path : Option String) (fields : List (String × Json.Value)) :
    Prop :=
  match path with
  | none => fields = []
  | some path => ∃ text, files.readText path = .ok text
      ∧ Json.Value.read? text = some (.object fields)

/-- Why a file of parameters cannot be used: it cannot be read as a text, its text is no
JSON value, or the value is not an object. -/
inductive FileFault (files : FileTree) : Option String → ToolError → Prop where
  | unreadable {path : String} {cause : FileError} (h : files.readText path = .error cause) :
      FileFault files (some path) (.unreadable cause)
  | notJson {path text : String} (h : files.readText path = .ok text)
      (unread : Json.Value.read? text = none) : FileFault files (some path) .notJson
  | notAnObject {path text : String} {v : Json.Value} (h : files.readText path = .ok text)
      (read : Json.Value.read? text = some v) (other : ∀ fields, v ≠ .object fields) :
      FileFault files (some path) (.parameters (.notAnObject (jsonKind v)))

section Outcomes

variable {files : FileTree} {path : Option String} {pairs : List String}
  {fields : List (String × Json.Value)} {assignments : List (String × String)} {e : ToolError}

/-- The names of the fields of a file are different. -/
theorem FileHolds.nodup (held : FileHolds files path fields) : (fields.map (·.1)).Nodup := by
  cases path with
  | none =>
    obtain rfl : fields = [] := held
    exact List.nodup_nil
  | some path =>
    obtain ⟨text, -, read⟩ := held
    apply (Json.Value.pairwise_names_of_read? read).imp
    intro name other lower same
    exact String.lt_irrefl name (same ▸ lower)

theorem collectParameters_of_fault (fault : FileFault files path e) :
    collectParameters files path pairs = .error e := by
  cases fault with
  | unreadable h => simp [collectParameters, readParameters, h]
  | notJson h unread => simp [collectParameters, readParameters, h, unread]
  | @notAnObject path text v h read other =>
    cases v with
    | object fields => exact absurd rfl (other fields)
    | _ => simp [collectParameters, readParameters, h, read, Record.ofJson]

/-- What the pairs give is put into the record of the fields. -/
theorem collectParameters_of_fileHolds (held : FileHolds files path fields) :
    collectParameters files path pairs = insertPairs (Record.ofList (pairsOf fields)) pairs := by
  cases path with
  | none =>
    obtain rfl : fields = [] := held
    rfl
  | some path =>
    obtain ⟨text, h, read⟩ := held
    simp [collectParameters, readParameters, h, read, Record.ofJson, pairsOf]

theorem fileHolds_or_fault (files : FileTree) (path : Option String) :
    (∃ fields, FileHolds files path fields) ∨ ∃ e, FileFault files path e := by
  cases path with
  | none => exact .inl ⟨[], rfl⟩
  | some path =>
    cases h : files.readText path with
    | error cause => exact .inr ⟨_, .unreadable h⟩
    | ok text =>
      cases read : Json.Value.read? text with
      | none => exact .inr ⟨_, .notJson h read⟩
      | some v =>
        cases v with
        | object fields => exact .inl ⟨fields, text, h, read⟩
        | _ => exact .inr ⟨_, .notAnObject h read (by simp)⟩

/-! ### Collecting -/

/-- How collecting parameters ends. -/
inductive Collects (files : FileTree) (path : Option String) (pairs : List String) :
    Except ToolError Record → Prop where
  | faulty {e : ToolError} (fault : FileFault files path e) : Collects files path pairs (.error e)
  | malformed {fields : List (String × Json.Value)} {before after : List String} {bad : String}
      (held : FileHolds files path fields) (whole : pairs = before ++ bad :: after)
      (sound : ∀ pair ∈ before, ¬ IsMalformed pair) (h : IsMalformed bad) :
      Collects files path pairs (.error (.malformedPair bad))
  | collected {fields : List (String × Json.Value)} {assignments : List (String × String)}
      (held : FileHolds files path fields) (giving : GiveAll pairs assignments) :
      Collects files path pairs (.ok (Record.ofList (pairsOf fields ++ given assignments)))

theorem Collects.eq {outcome : Except ToolError Record} (h : Collects files path pairs outcome) :
    collectParameters files path pairs = outcome := by
  cases h with
  | faulty fault => exact collectParameters_of_fault fault
  | @malformed fields before after bad held whole sound h =>
    obtain ⟨assignments, giving⟩ := exists_giveAll sound
    rw [collectParameters_of_fileHolds held, whole, insertPairs_append giving, insertPairs,
      readPair_of_isMalformed h]
  | @collected fields assignments held giving =>
    have all := insertPairs_append giving (Record.ofList (pairsOf fields)) []
    rw [List.append_nil] at all
    rw [collectParameters_of_fileHolds held, all, Record.ofList_append]
    rfl

theorem collects_collectParameters (files : FileTree) (path : Option String)
    (pairs : List String) : Collects files path pairs (collectParameters files path pairs) := by
  have ends : ∃ outcome, Collects files path pairs outcome := by
    rcases fileHolds_or_fault files path with ⟨fields, held⟩ | ⟨e, fault⟩
    · rcases giveAll_or_isMalformed pairs with
        ⟨assignments, giving⟩ | ⟨before, bad, after, assignments, whole, giving, h⟩
      · exact ⟨_, .collected held giving⟩
      · exact ⟨_, .malformed held whole giving.not_isMalformed h⟩
    · exact ⟨_, .faulty fault⟩
  obtain ⟨outcome, ends⟩ := ends
  exact ends.eq ▸ ends

end Outcomes

/-! ### What the record shows -/

section Overlay

variable {fields : List (String × Json.Value)} {pairs : List String}
  {assignments : List (String × String)} {name : String}

/-- The last pair that gives a name something decides about the name. -/
theorem lookup_of_last {before after : List String} {pair value : String}
    (giving : GiveAll (before ++ pair :: after) assignments) (gives : Gives pair name value)
    (last : ∀ later ∈ after, ∀ other, ¬ Gives later name other) :
    (Record.ofList (pairsOf fields ++ given assignments)).lookup name = some value := by
  obtain ⟨earlier, later, rfl, behind⟩ := giving.split gives
  have stored : pairsOf fields ++ given (earlier ++ (name, value) :: later)
      = (pairsOf fields ++ given earlier) ++ (name, .string value) :: given later := by
    simp [given]
  apply (Record.shows_ofList _).last _ name (.string value) _ stored
  rw [behind.mem_names_iff]
  intro ⟨pair, member, other, further⟩
  exact last pair member other further

/-- A name that the pairs give nothing has the value of the file. -/
theorem lookup_of_not_given (distinct : (fields.map (·.1)).Nodup)
    (giving : GiveAll pairs assignments) (free : ∀ pair ∈ pairs, ∀ value, ¬ Gives pair name value) :
    (Record.ofList (pairsOf fields ++ given assignments)).lookup name
      = (fields.lookup name).bind jsonText? := by
  have absent : name ∉ (given assignments).map (·.1) := by
    rw [giving.mem_names_iff]
    intro ⟨pair, member, value, gives⟩
    exact free pair member value gives
  rw [Record.ofList_append, Record.lookup_insertAll_of_not_mem absent]
  exact Source.lookup_of_holds distinct (.record rfl) name

theorem contains_iff_given (giving : GiveAll pairs assignments) :
    (Record.ofList (pairsOf fields ++ given assignments)).contains name = true
      ↔ (∃ pair ∈ pairs, ∃ value, Gives pair name value) ∨ name ∈ fields.map (·.1) := by
  have names : (pairsOf fields).map (·.1) = fields.map (·.1) := List.map_map
  rw [(Record.shows_ofList _).contains, List.map_append, List.mem_append, giving.mem_names_iff,
    names]
  exact Or.comm

end Overlay

/-- Parameters are collected exactly if the file, when there is one, can be read and holds
a JSON object, and no pair is malformed. A fault of the file is reported before those of the
pairs, and of these the first malformed one is, as it is written. Otherwise the last pair
that gives a name something decides about the name, and a name that no pair gives something
has the value of the file; a null in the file leaves it declared without a value. -/
theorem pairs_overlay_file (files : FileTree) (path : Option String) (pairs : List String) :
    ((∃ r, collectParameters files path pairs = .ok r)
        ↔ (∃ fields, FileHolds files path fields) ∧ ∀ pair ∈ pairs, ¬ IsMalformed pair)
      ∧ (∀ e, collectParameters files path pairs = .error e
        ↔ FileFault files path e
          ∨ (∃ fields, FileHolds files path fields)
            ∧ ∃ before bad after, pairs = before ++ bad :: after
              ∧ (∀ pair ∈ before, ¬ IsMalformed pair) ∧ IsMalformed bad
              ∧ e = .malformedPair bad)
      ∧ ∀ r fields, collectParameters files path pairs = .ok r → FileHolds files path fields →
        (∀ before pair after name value, pairs = before ++ pair :: after →
          Gives pair name value → (∀ later ∈ after, ∀ other, ¬ Gives later name other) →
            r.lookup name = some value)
        ∧ (∀ name, (∀ pair ∈ pairs, ∀ value, ¬ Gives pair name value) →
          r.lookup name = (fields.lookup name).bind jsonText?)
        ∧ ∀ name, r.contains name = true
          ↔ (∃ pair ∈ pairs, ∃ value, Gives pair name value) ∨ name ∈ fields.map (·.1) := by
  refine ⟨⟨?_, ?_⟩, fun e => ⟨?_, ?_⟩, ?_⟩
  · rintro ⟨r, success⟩
    cases success ▸ collects_collectParameters files path pairs with
    | collected held giving => exact ⟨⟨_, held⟩, giving.not_isMalformed⟩
  · rintro ⟨⟨fields, held⟩, sound⟩
    obtain ⟨assignments, giving⟩ := exists_giveAll sound
    exact ⟨_, (Collects.collected held giving).eq⟩
  · intro failure
    cases failure ▸ collects_collectParameters files path pairs with
    | faulty fault => exact .inl fault
    | @malformed fields before after bad held whole sound h =>
      exact .inr ⟨⟨fields, held⟩, before, bad, after, whole, sound, h, rfl⟩
  · rintro (fault | ⟨⟨fields, held⟩, before, bad, after, whole, sound, h, rfl⟩)
    · exact collectParameters_of_fault fault
    · exact (Collects.malformed held whole sound h).eq
  · intro r fields success held
    have sound : ∀ pair ∈ pairs, ¬ IsMalformed pair := by
      cases success ▸ collects_collectParameters files path pairs with
      | collected _ giving => exact giving.not_isMalformed
    obtain ⟨assignments, giving⟩ := exists_giveAll sound
    have collected := (Collects.collected held giving).eq
    obtain rfl : r = _ := Except.ok.inj (success.symm.trans collected)
    refine ⟨?_, ?_, fun name => contains_iff_given giving⟩
    · intro before pair after name value whole gives last
      exact lookup_of_last (whole ▸ giving) gives last
    · intro name free
      exact lookup_of_not_given held.nodup giving free

/-- A file of parameters, one of which is null. -/
private def fieldsText : String := "\x7b\"b\": null, \"a\": \"x\", \"c\": true\x7d"

/-- The fields of that file. -/
private def fileFields : List (String × Json.Value) :=
  [("a", .string "x"), ("b", .null), ("c", .boolean true)]

/-- Pairs that repeat a name of a file and pad it, and pairs that are malformed. -/
theorem pairs_overlay_file_repeated :
    let files := (FileTree.emptyAt ["work"]).write "p.json" (textFile fieldsText)
    FileHolds files (some "p.json") fileFields
      ∧ (∃ r, collectParameters files (some "p.json") ["a=1", " a\t= a=b ", "d="] = .ok r
        ∧ r.lookup "a" = some " a=b " ∧ r.lookup "d" = some "" ∧ r.lookup "c" = some "true"
        ∧ r.lookup "b" = none ∧ r.contains "b" = true)
      ∧ collectParameters files (some "p.json") ["a=1", " =2", "b"]
        = .error (.malformedPair " =2")
      ∧ collectParameters files (some "p.jso") ["=2"] = .error (.unreadable .notFound) := by
  intro files
  have text : files.readText "p.json" = .ok fieldsText := by rfl
  have held : FileHolds files (some "p.json") fileFields := ⟨fieldsText, text, by cbv⟩
  have first : Gives "a=1" "a" "1" := ⟨⟨['a'], rfl, by decide, rfl⟩, by decide⟩
  have second : Gives " a\t= a=b " "a" " a=b " :=
    ⟨⟨[' ', 'a', '\t'], rfl, by decide, rfl⟩, by decide⟩
  have third : Gives "d=" "d" "" := ⟨⟨['d'], rfl, by decide, rfl⟩, by decide⟩
  have giving : GiveAll ["a=1", " a\t= a=b ", "d="] [("a", "1"), ("a", " a=b "), ("d", "")] :=
    .cons first (.cons second (.cons third .nil))
  have free {name : String} (other : name ∉ ["a", "a", "d"]) :
      ∀ pair ∈ ["a=1", " a\t= a=b ", "d="], ∀ value, ¬ Gives pair name value := by
    intro pair member value gives
    exact other (giving.mem_names_iff.mpr ⟨pair, member, value, gives⟩)
  obtain ⟨success, -, shown⟩ :=
    pairs_overlay_file files (some "p.json") ["a=1", " a\t= a=b ", "d="]
  obtain ⟨r, collected⟩ := success.mpr ⟨⟨fileFields, held⟩, giving.not_isMalformed⟩
  obtain ⟨last, kept, declared⟩ := shown r fileFields collected held
  refine ⟨held, ⟨r, collected, ?_, ?_, ?_, ?_, ?_⟩, ?_, ?_⟩
  · apply last ["a=1"] " a\t= a=b " ["d="] "a" " a=b " rfl second
    rintro pair member other gives
    obtain rfl : pair = "d=" := by simpa using member
    exact absurd (gives.unique third).1 (by decide)
  · exact last ["a=1", " a\t= a=b "] "d=" [] "d" "" rfl third (by simp)
  · exact kept "c" (free (by decide))
  · exact kept "b" (free (by decide))
  · exact (declared "b").mpr (.inr (by decide))
  · apply ((pairs_overlay_file files (some "p.json") _).2.1 _).mpr
    have sound : ∀ pair ∈ ["a=1"], ¬ IsMalformed pair := by
      simpa using first.not_isMalformed
    exact .inr ⟨⟨fileFields, held⟩, ["a=1"], " =2", ["b"], rfl, sound,
      .inr ⟨[' '], ['2'], rfl, rfl⟩, rfl⟩
  · apply ((pairs_overlay_file files (some "p.jso") _).2.1 _).mpr
    exact .inl (.unreadable rfl)

end SqlMapper.CommandLine
