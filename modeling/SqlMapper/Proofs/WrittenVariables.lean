/-
Module: SqlMapper.Proofs.WrittenVariables
Purpose: Variables that are written to a file are read back as they were.
Main exports: IsKey, WrittenAssignment, WrittenLine, WrittenFile, assigns_written, says_written,
  written_variables_read_back
-/
import Mathlib.Data.List.Basic
import SqlMapper.Proofs.VariableFiles

namespace SqlMapper.Text

/-! ### Lines of a text -/

theorem lines_of_not_mem {cs : List Char} (free : '\n' ∉ cs) : lines cs = [cs] := by
  induction cs with
  | nil => rfl
  | cons c cs ih =>
    obtain ⟨other, free⟩ := List.ne_and_not_mem_of_not_mem_cons free
    have rest := ih free
    rw [lines] at rest ⊢
    rw [List.foldr_cons, if_neg (Ne.symm other), rest]

/-- A line ends at its line feed. -/
theorem lines_append_cons {front : List Char} (free : '\n' ∉ front) (rest : List Char) :
    lines (front ++ '\n' :: rest) = front :: lines rest := by
  induction front with
  | nil => rfl
  | cons c front ih =>
    obtain ⟨other, free⟩ := List.ne_and_not_mem_of_not_mem_cons free
    have further := ih free
    rw [lines] at further ⊢
    rw [List.cons_append, List.foldr_cons, if_neg (Ne.symm other), further]

end SqlMapper.Text

namespace SqlMapper.CommandLine

open SqlMapper.Files SqlMapper.Text

/-!
A file of variables can be written in many ways: assignments may be indented and
follow the word `export`, blanks may surround the equals sign, quotes of either
kind the value, and remarks may stand between them. Whichever is chosen, loading the
file succeeds, and each key has the value that was written for it last.
-/

/-! ### Written lines -/

/-- Blanks within a line. -/
structure Blanks where
  characters : List Char
  blank : isBlankText characters = true
  oneLine : '\n' ∉ characters

/-- The quotes around a value. -/
inductive Quote where
  | single
  | double
deriving Repr, DecidableEq

/-- The character that stands on either side. -/
def Quote.character : Quote → Char
  | .single => '\''
  | .double => '"'

/-- A name that is read back where it stands in front of an equals sign: no blanks
at its ends, no equals sign and no line feed in it, and nothing at its start that
would be taken for a comment or for the word `export`. -/
structure IsKey (key : String) : Prop where
  nonempty : key ≠ ""
  trimmed : trim key.toList = key.toList
  noSign : '=' ∉ key.toList
  oneLine : '\n' ∉ key.toList
  noMark : key.toList.head? ≠ some '#'
  noExport : ¬ "export ".toList <+: key.toList
  notExport : key ≠ "export"

/-- An assignment as it is written; behind the word `export` there may be more than
one blank. -/
structure WrittenAssignment where
  indent : Blanks
  exported : Option Blanks
  key : String
  isKey : IsKey key
  gap : Blanks
  secondGap : Blanks
  quote : Quote
  value : String
  oneLine : '\n' ∉ value.toList
  trail : Blanks

namespace WrittenAssignment

/-- The value between its quotes. -/
def quoted (a : WrittenAssignment) : List Char :=
  a.quote.character :: (a.value.toList ++ [a.quote.character])

/-- The key, the equals sign and the value. -/
def assigned (a : WrittenAssignment) : List Char :=
  a.key.toList ++ (a.gap.characters ++ '=' :: (a.secondGap.characters ++ a.quoted))

/-- The assignment without the blanks around it. -/
def content (a : WrittenAssignment) : List Char :=
  match a.exported with
  | none => a.assigned
  | some blanks => "export ".toList ++ (blanks.characters ++ a.assigned)

end WrittenAssignment

/-- A line as it is written: blanks, a comment or an assignment. -/
inductive WrittenLine where
  | blank (blanks : Blanks)
  | comment (indent : Blanks) (text : List Char) (oneLine : '\n' ∉ text)
  | assignment (a : WrittenAssignment)

namespace WrittenLine

/-- The characters of a line. -/
def text : WrittenLine → List Char
  | .blank blanks => blanks.characters
  | .comment indent text _ => indent.characters ++ '#' :: text
  | .assignment a => a.indent.characters ++ (a.content ++ a.trail.characters)

/-- The assignment on a line. -/
def assignment? : WrittenLine → Option (String × String)
  | .assignment a => some (a.key, a.value)
  | _ => none

end WrittenLine

/-- How a line ends, a line feed with or without a carriage return in front. -/
inductive LineEnding where
  | lf
  | crlf
deriving Repr, DecidableEq

/-- What stands between the line and its line feed. -/
def LineEnding.front : LineEnding → List Char
  | .lf => []
  | .crlf => ['\r']

/-- A file as it is written: lines with their endings, and a last line without one. -/
structure WrittenFile where
  ended : List (WrittenLine × LineEnding)
  last : WrittenLine

namespace WrittenFile

/-- The characters of lines with their endings. -/
def endedText (ended : List (WrittenLine × LineEnding)) : List Char :=
  ended.flatMap fun line => line.1.text ++ line.2.front ++ ['\n']

/-- The text of a file. -/
def text (file : WrittenFile) : String :=
  String.ofList (endedText file.ended ++ file.last.text)

/-- The assignments of a file, in order. -/
def assignments (file : WrittenFile) : List (String × String) :=
  (file.ended.map (·.1) ++ [file.last]).filterMap WrittenLine.assignment?

end WrittenFile

/-! ### Reading a written line -/

namespace IsKey

variable {key : String}

theorem toList_ne_nil (h : IsKey key) : key.toList ≠ [] := by
  simpa using h.nonempty

theorem isTrimmed (h : IsKey key) : IsTrimmed key.toList :=
  h.trimmed ▸ isTrimmed_trim key.toList

/-- The word `export` and the space behind it do not come about from a key and the
blank or equals sign behind the key. -/
theorem not_export_prefix (h : IsKey key) {c : Char} (edge : isBlank c = true ∨ c = '=')
    (rest : List Char) : ¬ "export ".toList <+: key.toList ++ c :: rest := by
  intro word
  rcases List.prefix_or_prefix_of_prefix word (List.prefix_append _ _) with whole | ⟨back, part⟩
  · exact h.noExport whole
  · cases back with
    | nil =>
      rw [List.append_nil] at part
      exact h.noExport (part ▸ List.prefix_refl _)
    | cons d back =>
      rw [← part, List.prefix_append_right_inj] at word
      obtain rfl : d = c := (List.cons_prefix_cons.mp word).1
      -- No letter of the word is a blank or an equals sign, so the key ends before the space.
      have solid : "export".toList.all (fun d => !(isBlank d || d == '=')) = true := by decide
      have letters : ∀ d ∈ "export".toList, ¬ (isBlank d = true ∨ d = '=') := by
        intro d member
        simpa using List.all_eq_true.mp solid d member
      have spaced : key.toList ++ d :: back = "export".toList ++ [' '] := part
      rcases List.append_eq_append_iff.mp spaced with ⟨inner, word, behind⟩ | ⟨inner, long, behind⟩
      · cases inner with
        | nil => exact h.notExport (String.toList_inj.mp (by simpa using word.symm))
        | cons e inner =>
          obtain rfl : d = e := (List.cons.inj behind).1
          exact letters d (word ▸ by simp) edge
      · cases inner with
        | nil => exact h.notExport (String.toList_inj.mp (by simpa using long))
        | cons e inner => simp at behind

end IsKey

namespace WrittenAssignment

variable (a : WrittenAssignment)

theorem isTrimmed_quoted : IsTrimmed a.quoted := by
  have solid : isBlank a.quote.character = false := by cases a.quote <;> rfl
  have last : a.quoted.getLast? = some a.quote.character := by
    rw [quoted, ← List.cons_append, List.getLast?_concat]
  exact ⟨solid, by rw [last]; exact solid⟩

theorem unquoteValue_quoted : unquoteValue a.quoted = a.value.toList := by
  have known : a.quote.character = '"' ∨ a.quote.character = '\'' := by
    cases a.quote with
    | single => exact .inr rfl
    | double => exact .inl rfl
  rw [quoted, unquoteValue, if_pos ⟨known, List.getLast?_concat⟩, List.dropLast_concat]

/-- Without the word `export` the key and what is behind it remain. -/
theorem stripExport_content :
    ∃ blanks, isBlankText blanks = true ∧ stripExport a.content = blanks ++ a.assigned := by
  rw [content]
  cases a.exported with
  | none =>
    refine ⟨[], rfl, ?_⟩
    have word : ¬ "export ".toList <+: a.assigned := by
      rw [assigned]
      cases gap : a.gap.characters with
      | nil => exact a.isKey.not_export_prefix (.inr rfl) _
      | cons c gap =>
        have blank := isBlankText_iff.mp a.gap.blank c (gap ▸ List.mem_cons_self)
        exact a.isKey.not_export_prefix (.inl blank) _
    rw [List.nil_append, stripExport, if_neg (by simpa using word)]
  | some blanks =>
    refine ⟨blanks.characters, blanks.blank, ?_⟩
    have word : "export ".toList.isPrefixOf
        ("export ".toList ++ (blanks.characters ++ a.assigned)) :=
      List.isPrefixOf_iff_prefix.mpr (List.prefix_append _ _)
    rw [stripExport, if_pos word, List.drop_left]

/-- A written assignment starts like its key or like the word `export`. -/
theorem head?_content : ∃ c, a.content.head? = some c ∧ isBlank c = false ∧ c ≠ '#' := by
  rw [content]
  cases a.exported with
  | none =>
    have edge := a.isKey.isTrimmed.1
    have noMark := a.isKey.noMark
    obtain ⟨c, rest, hkey⟩ := List.exists_cons_of_ne_nil a.isKey.toList_ne_nil
    rw [hkey] at edge noMark
    refine ⟨c, ?_, edge, fun mark => noMark (congrArg some mark)⟩
    rw [assigned, hkey]
    rfl
  | some blanks => exact ⟨'e', rfl, by decide, by decide⟩

theorem content_ne_nil : a.content ≠ [] := by
  obtain ⟨c, head, -⟩ := a.head?_content
  intro bare
  rw [bare] at head
  cases head

/-- The value with its quotes stands last, and the line goes on up to there. -/
theorem exists_content_eq : ∃ front, a.content = front ++ a.quoted ∧ '\n' ∉ front := by
  let beforeValue := a.key.toList ++ (a.gap.characters ++ '=' :: a.secondGap.characters)
  have whole : a.assigned = beforeValue ++ a.quoted := by simp [assigned, beforeValue]
  have oneLine : '\n' ∉ beforeValue := by
    simp [beforeValue, a.isKey.oneLine, a.gap.oneLine, a.secondGap.oneLine]
  rw [content, whole]
  cases a.exported with
  | none => exact ⟨beforeValue, rfl, oneLine⟩
  | some blanks =>
    refine ⟨"export ".toList ++ (blanks.characters ++ beforeValue), by simp, ?_⟩
    rw [List.mem_append, List.mem_append, not_or, not_or]
    exact ⟨by decide, blanks.oneLine, oneLine⟩

theorem isTrimmed_content : IsTrimmed a.content := by
  obtain ⟨c, head, solid, -⟩ := a.head?_content
  refine ⟨by rw [head]; exact solid, ?_⟩
  obtain ⟨front, whole, -⟩ := a.exists_content_eq
  rw [whole, List.getLast?_append_of_ne_nil front (by simp [quoted])]
  exact a.isTrimmed_quoted.2

/-- A written assignment assigns its value to its key, whatever blanks stand around it. -/
theorem assigns_written {tail : List Char} (blanks : isBlankText tail = true) :
    Assigns (a.indent.characters ++ (a.content ++ (a.trail.characters ++ tail))) a.key a.value := by
  have trail : isBlankText (a.trail.characters ++ tail) = true := by
    rw [isBlankText, List.all_append, Bool.and_eq_true]
    exact ⟨a.trail.blank, blanks⟩
  have trimmed := trim_append a.indent.blank a.content_ne_nil a.isTrimmed_content trail
  refine ⟨?_, ?_, a.isKey.nonempty⟩
  · obtain ⟨c, head, -, noMark⟩ := a.head?_content
    rw [isRemark_iff, trimmed, head]
    simpa using noMark
  · obtain ⟨front, frontBlanks, stripped⟩ := a.stripExport_content
    refine ⟨front ++ (a.key.toList ++ a.gap.characters), a.secondGap.characters ++ a.quoted,
      ?_, ?_, ?_, ?_⟩
    · rw [trimmed, stripped, assigned]
      simp
    · have noSign {blanks : List Char} (all : isBlankText blanks = true) : '=' ∉ blanks :=
        fun member => absurd (isBlankText_iff.mp all '=' member) (by decide)
      simp [noSign frontBlanks, noSign a.gap.blank, a.isKey.noSign]
    · exact trim_append frontBlanks a.isKey.toList_ne_nil a.isKey.isTrimmed a.gap.blank
    · have value := trim_append a.secondGap.blank (by simp [quoted]) a.isTrimmed_quoted
        (show isBlankText [] = true from rfl)
      rw [List.append_nil] at value
      rw [value, unquoteValue_quoted]

end WrittenAssignment

theorem LineEnding.isBlankText_front (ending : LineEnding) : isBlankText ending.front = true := by
  cases ending <;> rfl

namespace WrittenLine

/-- A written line says its assignment, if it has one. -/
theorem says_written (line : WrittenLine) {tail : List Char} (blanks : isBlankText tail = true)
    {rest : List (List Char)} {assignments : List (String × String)}
    (later : Says rest assignments) :
    Says ((line.text ++ tail) :: rest) (line.assignment?.toList ++ assignments) := by
  cases line with
  | blank characters =>
    refine .remark ⟨characters.characters ++ tail, [], ?_, (List.append_nil _).symm, rfl⟩ later
    rw [isBlankText, List.all_append, Bool.and_eq_true]
    exact ⟨characters.blank, blanks⟩
  | comment indent text oneLine =>
    exact .remark ⟨indent.characters, '#' :: (text ++ tail), indent.blank,
      by simp [WrittenLine.text], rfl⟩ later
  | assignment a =>
    have assigns := a.assigns_written blanks
    rw [← List.append_assoc a.content, ← List.append_assoc] at assigns
    exact .assignment assigns later

theorem oneLine (line : WrittenLine) : '\n' ∉ line.text := by
  cases line with
  | blank blanks => exact blanks.oneLine
  | comment indent characters oneLine => simp [text, indent.oneLine, oneLine]
  | assignment a =>
    obtain ⟨front, whole, oneLine⟩ := a.exists_content_eq
    have quote : '\n' ≠ a.quote.character := by cases a.quote <;> decide
    simp [text, whole, WrittenAssignment.quoted, a.indent.oneLine, a.trail.oneLine, a.oneLine,
      oneLine, quote]

end WrittenLine

/-! ### Reading a written file -/

theorem says_file (file : WrittenFile) : Says (lines file.text.toList) file.assignments := by
  obtain ⟨ended, last⟩ := file
  simp only [WrittenFile.text, WrittenFile.assignments, String.toList_ofList]
  induction ended with
  | nil =>
    have alone : Says [last.text ++ []] (last.assignment?.toList ++ []) :=
      last.says_written rfl .nil
    rw [List.append_nil, List.append_nil] at alone
    rw [WrittenFile.endedText, List.flatMap_nil, List.nil_append, lines_of_not_mem last.oneLine]
    cases said : last.assignment? <;> simpa [said] using alone
  | cons line ended ih =>
    obtain ⟨line, ending⟩ := line
    have first := line.says_written ending.isBlankText_front ih
    have oneLine : '\n' ∉ line.text ++ ending.front := by
      rw [List.mem_append, not_or]
      exact ⟨line.oneLine, by cases ending <;> decide⟩
    have cut : lines (WrittenFile.endedText ((line, ending) :: ended) ++ last.text)
        = (line.text ++ ending.front) :: lines (WrittenFile.endedText ended ++ last.text) := by
      rw [← lines_append_cons oneLine]
      simp [WrittenFile.endedText]
    rw [cut]
    cases said : line.assignment? <;> simpa [said] using first

section Settings

variable {e : Environment}

/-- The settings hold a path exactly if its variable has more than blanks. -/
theorem mapPath_eq_some_iff {root : String} :
    e.settings.mapPath = some root ↔ root ≠ "" ∧ ∃ value,
      e.find? Settings.mapPathVariable = some value ∧ trim value.toList = root.toList := by
  rw [Environment.settings, Settings.fromVariables]
  cases e.find? Settings.mapPathVariable with
  | none => simp [Settings.unset]
  | some value =>
    by_cases blank : trim value.toList = []
    · simp only [blank, List.isEmpty_nil, if_true, Settings.unset, Option.some.injEq,
        exists_eq_left', reduceCtorEq, false_iff, not_and]
      exact fun nonempty bare => nonempty (String.toList_eq_nil_iff.mp bare.symm)
    · simp only [List.isEmpty_iff, blank, if_false, Option.some.injEq, exists_eq_left']
      constructor
      · rintro rfl
        rw [String.toList_ofList]
        exact ⟨fun bare => blank (String.ofList_eq_empty_iff.mp bare), rfl⟩
      · rintro ⟨-, path⟩
        rw [path, String.ofList_toList]

theorem mapPath_eq_none_iff :
    e.settings.mapPath = none ↔ ∀ value,
      e.find? Settings.mapPathVariable = some value → isBlankText value.toList = true := by
  rw [Environment.settings, Settings.fromVariables]
  cases e.find? Settings.mapPathVariable with
  | none => simp [Settings.unset]
  | some value =>
    by_cases blank : trim value.toList = []
    · simp [blank, Settings.unset, ← trim_eq_nil_iff]
    · simp [blank, ← trim_eq_nil_iff]

end Settings

/-- Loading a file of written lines succeeds. Each key has the value of the last
assignment to it, and the value from before if there is none; and the settings hold
the path that its variable then has, without the blanks around it, unless the
variable is missing or blank. -/
theorem written_variables_read_back (e : Environment) (file : WrittenFile) {files : FileTree}
    {path : String} (holds : files.readText path = .ok file.text) :
    ∃ e' : Environment, e.load files path = (.ok (), e')
      ∧ (∀ key, e'.find? key = (file.assignments.reverse.lookup key).or (e.find? key))
      ∧ (∀ root, e'.settings.mapPath = some root ↔ root ≠ "" ∧ ∃ value,
        e'.find? Settings.mapPathVariable = some value ∧ trim value.toList = root.toList)
      ∧ (e'.settings.mapPath = none ↔ ∀ value,
        e'.find? Settings.mapPathVariable = some value → isBlankText value.toList = true) := by
  have loaded := loadLines_append_of_says (says_file file) e 1 []
  rw [List.append_nil] at loaded
  refine ⟨e.assignAll file.assignments, ?_, find?_assignAll e _, ?_, ?_⟩
  · rw [Environment.load, holds]
    exact loaded
  · exact fun root => mapPath_eq_some_iff
  · exact mapPath_eq_none_iff

private def noBlanks : Blanks := ⟨[], by decide, by decide⟩

private def space : Blanks := ⟨[' '], by decide, by decide⟩

private def overlaidFile : WrittenFile where
  ended := [
    (.assignment ⟨space, some space, "A", ⟨by decide, by decide, by decide, by decide, by decide,
      by decide, by decide⟩, space, noBlanks, .single, "'b' = # ", by decide, noBlanks⟩, .crlf),
    (.comment space " QUARRY_MAP_PATH=/none".toList (by decide), .lf),
    (.blank space, .lf)]
  last := .assignment ⟨noBlanks, none, "QUARRY_MAP_PATH", ⟨by decide, by decide, by decide,
    by decide, by decide, by decide, by decide⟩, noBlanks, space, .double, " /maps ", by decide,
    space⟩

/-- Quotes, an equals sign and a blank at the end of a value are kept; a comment sets
nothing, and a variable that the file does not mention stays. -/
theorem written_variables_read_back_overlaid :
    let files := (FileTree.emptyAt ["work"]).write ".env"
      (textFile " export  A =''b' = # '\r\n # QUARRY_MAP_PATH=/none\n \nQUARRY_MAP_PATH= \" /maps \" ")
    let e := Environment.ofList [("A", "a"), ("B", "b")]
    files.readText ".env" = .ok overlaidFile.text
      ∧ ∃ e' : Environment, e.load files ".env" = (.ok (), e') ∧ e'.find? "A" = some "'b' = # "
        ∧ e'.find? "B" = some "b" ∧ e'.settings.mapPath = some "/maps" := by
  intro files e
  have holds : files.readText ".env" = .ok overlaidFile.text := by rfl
  obtain ⟨e', loaded, values, path, -⟩ := written_variables_read_back e overlaidFile holds
  refine ⟨holds, e', loaded, (values "A").trans (by decide), (values "B").trans (by decide), ?_⟩
  exact (path "/maps").mpr ⟨by decide, " /maps ", (values _).trans (by decide), by decide⟩

end SqlMapper.CommandLine
