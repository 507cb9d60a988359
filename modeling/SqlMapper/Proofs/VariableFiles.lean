/-
Module: SqlMapper.Proofs.VariableFiles
Purpose: What the lines of a file of variables say, and what loading the file leaves in force.
Main exports: IsRemark, Assigns, LineFault, Says, Loads, loads_load, find?_assignAll,
  failed_load_keeps_earlier_lines
-/
import SqlMapper.CommandLine.Environment
import SqlMapper.Proofs.Spans

namespace SqlMapper.CommandLine

open SqlMapper.Files SqlMapper.Text

/-!
Each line of a file of variables said nothing, or assigns a value to a key, or
cannot be read; what it is does not depend on the other lines. Loading takes the
lines in order and stops at the first that cannot be read. The assignments before
that line are in force then, and nothing else has changed.
-/

/-! ### Lines -/

/-- A line that said nothing: blanks alone, or a number sign behind blanks. -/
def IsRemark (line : List Char) : Prop :=
  ∃ indent rest, isBlankText indent = true ∧ line = indent ++ rest
    ∧ rest.head?.all (· == '#') = true

/-- A line that assigns a value to a key. The blanks around the line, the key and
the value do not count, nor do the word `export` in front and quotes around the
value. -/
structure Assigns (line : List Char) (key value : String) : Prop where
  notRemark : ¬ IsRemark line
  parts : ∃ before after, stripExport (trim line) = before ++ '=' :: after ∧ '=' ∉ before
    ∧ trim before = key.toList ∧ unquoteValue (trim after) = value.toList
  named : key ≠ ""

/-- A line that is no remark and has no equals sign. -/
def LacksSign (line : List Char) : Prop := ¬ IsRemark line ∧ '=' ∉ line

/-- A line that has nothing but blanks where the key should stand. -/
def LacksKey (line : List Char) : Prop :=
  ¬ IsRemark line ∧ ∃ before after, stripExport (trim line) = before ++ '=' :: after
    ∧ isBlankText before = true

/-- Why a line with this number cannot be read. -/
inductive LineFault (number : Nat) (line : List Char) : EnvironmentError → Prop where
  | noSign (h : LacksSign line) : LineFault number line (.malformedLine number)
  | noKey (h : LacksKey line) : LineFault number line (.emptyKey number)

section Lines

variable {line cs : List Char} {number : Nat}

theorem head?_trim (cs : List Char) : (trim cs).head? = (trimStart cs).head? := by
  obtain ⟨trail, blanks, whole⟩ := exists_trimEnd (trimStart cs)
  rw [← trim] at whole
  cases trimmed : trim cs with
  | nil =>
    -- What trimming takes from the end would start with a character that is no blank.
    rw [trimmed, List.nil_append] at whole
    rw [whole]
    cases trail with
    | nil => rfl
    | cons c trail =>
      have blank := isBlankText_iff.mp blanks c List.mem_cons_self
      have first := head?_trimStart cs
      rw [whole, List.head?_cons, Option.any_some, blank] at first
      cases first
  | cons c rest =>
    rw [whole, trimmed]
    rfl

theorem isRemark_iff : IsRemark line ↔ (trim line).head?.all (· == '#') = true := by
  rw [head?_trim]
  constructor
  · rintro ⟨indent, rest, blanks, rfl, mark⟩
    have edge : rest.head?.any isBlank = false := by
      cases rest with
      | nil => rfl
      | cons c rest =>
        obtain rfl : c = '#' := by simpa using mark
        rfl
    rwa [trimStart_append blanks edge]
  · intro mark
    obtain ⟨indent, blanks, whole⟩ := exists_trimStart line
    exact ⟨indent, trimStart line, blanks, whole, mark⟩

theorem readLine_of_isRemark (h : IsRemark line) : readLine number line = .ok none := by
  rw [isRemark_iff] at h
  cases trimmed : trim line with
  | nil => simp [readLine, trimmed]
  | cons c rest =>
    rw [trimmed] at h
    obtain rfl : c = '#' := by simpa using h
    simp [readLine, trimmed]

theorem cutAt?_eq_none_iff {separator : Char} : cutAt? separator cs = none ↔ separator ∉ cs := by
  constructor
  · intro uncut member
    obtain ⟨before, after, rfl, free⟩ := List.eq_append_cons_of_mem member
    rw [cutAt?_append free] at uncut
    cases uncut
  · intro free
    cases cut : cutAt? separator cs with
    | none => rfl
    | some parts =>
      obtain ⟨rfl, -⟩ := cutAt?_eq_some cut
      exact absurd (by simp) free

section Assignment

variable {before after : List Char}

theorem readLine_of_uncut (h : ¬ IsRemark line) (free : '=' ∉ stripExport (trim line)) :
    readLine number line = .error (.malformedLine number) := by
  rw [isRemark_iff] at h
  cases trimmed : trim line with
  | nil => simp [trimmed] at h
  | cons c rest =>
    rw [trimmed] at h free
    have other : ¬ c = '#' := by simpa using h
    simp [readLine, trimmed, other, cutAt?_eq_none_iff.mpr free]

/-- A line that is no remark is cut at its first equals sign. -/
theorem readLine_of_cut (h : ¬ IsRemark line)
    (whole : stripExport (trim line) = before ++ '=' :: after) (free : '=' ∉ before) :
    readLine number line =
      if trim before = [] then .error (.emptyKey number)
      else .ok (some (String.ofList (trim before), String.ofList (unquoteValue (trim after)))) := by
  rw [isRemark_iff] at h
  cases trimmed : trim line with
  | nil => simp [trimmed] at h
  | cons c rest =>
    rw [trimmed] at h whole
    have other : ¬ c = '#' := by simpa using h
    simp [readLine, trimmed, other, whole, cutAt?_append free]

end Assignment

/-- The word `export` holds no equals sign. -/
theorem mem_stripExport_iff : '=' ∈ stripExport cs ↔ '=' ∈ cs := by
  rw [stripExport]
  split
  · rename_i front
    obtain ⟨rest, rfl⟩ := List.isPrefixOf_iff_prefix.mp front
    rw [List.drop_left, List.mem_append]
    exact (or_iff_right (by decide)).symm
  · rfl

theorem mem_trim_iff {c : Char} (h : isBlank c = false) : c ∈ trim cs ↔ c ∈ cs := by
  obtain ⟨indent, trail, front, back, whole⟩ := exists_trim cs
  have outside {blanks : List Char} (all : isBlankText blanks = true) : c ∉ blanks := by
    intro member
    rw [isBlankText_iff.mp all c member] at h
    cases h
  conv_rhs => rw [whole]
  simp [outside front, outside back]

theorem readLine_of_assigns {key value : String} (h : Assigns line key value) :
    readLine number line = .ok (some (key, value)) := by
  obtain ⟨before, after, whole, free, hkey, hvalue⟩ := h.parts
  have named : key.toList ≠ [] := by simpa using h.named
  rw [readLine_of_cut h.notRemark whole free, hkey, hvalue, if_neg named, String.ofList_toList,
    String.ofList_toList]

theorem readLine_of_lineFault {error : EnvironmentError} (h : LineFault number line error) :
    readLine number line = .error error := by
  cases h with
  | noSign h =>
    have free : '=' ∉ stripExport (trim line) := by
      rw [mem_stripExport_iff, mem_trim_iff (by decide)]
      exact h.2
    exact readLine_of_uncut h.1 free
  | noKey h =>
    obtain ⟨before, after, whole, blanks⟩ := h.2
    have free : '=' ∉ before := fun member =>
      absurd (isBlankText_iff.mp blanks '=' member) (by decide)
    rw [readLine_of_cut h.1 whole free, if_pos (trim_eq_nil_iff.mpr blanks)]

/-- A line is a remark, an assignment or cannot be read. -/
theorem line_cases (number : Nat) (line : List Char) :
    IsRemark line ∨ (∃ key value, Assigns line key value)
      ∨ ∃ error, LineFault number line error := by
  by_cases remark : IsRemark line
  · exact .inl remark
  · refine .inr ?_
    cases cut : cutAt? '=' (stripExport (trim line)) with
    | none =>
      rw [cutAt?_eq_none_iff, mem_stripExport_iff, mem_trim_iff (by decide)] at cut
      exact .inr ⟨_, .noSign ⟨remark, cut⟩⟩
    | some parts =>
      obtain ⟨before, after⟩ := parts
      obtain ⟨whole, free⟩ := cutAt?_eq_some cut
      by_cases blanks : isBlankText before = true
      · exact .inr ⟨_, .noKey ⟨remark, before, after, whole, blanks⟩⟩
      · refine .inl ⟨String.ofList (trim before), String.ofList (unquoteValue (trim after)), remark,
          ⟨before, after, whole, free, by simp, by simp⟩, ?_⟩
        rw [← trim_eq_nil_iff] at blanks
        simpa [← String.toList_inj] using blanks

end Lines

/-! ### Loading -/

/-- The assignments that lines make, one after the other; all lines can be read. -/
inductive Says : List (List Char) → List (String × String) → Prop where
  | nil : Says [] []
  | remark {line : List Char} {rest : List (List Char)} {assignments : List (String × String)}
      (h : IsRemark line) (later : Says rest assignments) : Says (line :: rest) assignments
  | assignment {line : List Char} {rest : List (List Char)} {key value : String}
      {assignments : List (String × String)} (h : Assigns line key value)
      (later : Says rest assignments) : Says (line :: rest) ((key, value) :: assignments)

/-- The environment after assignments, one after the other. -/
def Environment.assignAll (e : Environment) (assignments : List (String × String)) : Environment :=
  ⟨e.values.insertAll assignments⟩

/-- A variable has the value of the last assignment to it, and the others are as before. -/
theorem find?_assignAll (e : Environment) (assignments : List (String × String)) (key : String) :
    (e.assignAll assignments).find? key
      = (assignments.reverse.lookup key).or (e.find? key) :=
  e.values.find?_insertAll assignments key

/-- The settings depend on one variable only. -/
theorem settings_congr {e e' : Environment}
    (h : e'.find? Settings.mapPathVariable = e.find? Settings.mapPathVariable) :
    e'.settings = e.settings := by
  simp only [Environment.settings, Settings.fromVariables, h]

/-- Lines that can be read take effect in order, before those behind them. -/
theorem loadLines_append_of_says {before : List (List Char)} {assignments : List (String × String)}
    (said : Says before assignments) (e : Environment) (number : Nat) (rest : List (List Char)) :
    e.loadLines number (before ++ rest)
      = (e.assignAll assignments).loadLines (number + before.length) rest := by
  induction said generalizing e number with
  | nil => rfl
  | @remark line later assignments h said ih =>
    rw [List.cons_append, Environment.loadLines, readLine_of_isRemark h]
    simp only [ih, List.length_cons, Nat.add_assoc, Nat.add_comm 1]
  | @assignment line later key value assignments h said ih =>
    rw [List.cons_append, Environment.loadLines, readLine_of_assigns h]
    simp only [ih, List.length_cons, Nat.add_assoc, Nat.add_comm 1]
    rfl

/-- All lines can be read, or there is a first that cannot. -/
theorem says_or_fault (number : Nat) (all : List (List Char)) :
    (∃ assignments, Says all assignments)
      ∨ ∃ before line after assignments error, all = before ++ line :: after
        ∧ Says before assignments ∧ LineFault (number + before.length) line error := by
  induction all generalizing number with
  | nil => exact .inl ⟨[], .nil⟩
  | cons line rest ih =>
    rcases line_cases number line with remark | ⟨key, value, assigns⟩ | ⟨error, fault⟩
    · rcases ih (number + 1) with ⟨assignments, said⟩ | ⟨before, bad, after, assignments, error, h⟩
      · exact .inl ⟨assignments, .remark remark said⟩
      · obtain ⟨rfl, said, fault⟩ := h
        refine .inr ⟨line :: before, bad, after, assignments, error, rfl, .remark remark said, ?_⟩
        rwa [List.length_cons, Nat.add_comm before.length, ← Nat.add_assoc]
    · rcases ih (number + 1) with ⟨assignments, said⟩ | ⟨before, bad, after, assignments, error, h⟩
      · exact .inl ⟨_, .assignment assigns said⟩
      · obtain ⟨rfl, said, fault⟩ := h
        refine .inr ⟨line :: before, bad, after, _, error, rfl, .assignment assigns said, ?_⟩
        rwa [List.length_cons, Nat.add_comm before.length, ← Nat.add_assoc]
    · exact .inr ⟨[], line, rest, [], error, rfl, .nil, fault⟩

/-- How loading a file ends: it cannot be read as a whole, or all its lines are
read, or one of them stops the loading. -/
inductive Loads (e : Environment) (files : FileTree) (path : String) :
    Except EnvironmentError Unit → Environment → Prop where
  | unreadable {cause : FileError} (h : files.readText path = .error cause) :
      Loads e files path (.error (.unreadable path cause)) e
  | loaded {text : String} {assignments : List (String × String)}
      (h : files.readText path = .ok text) (said : Says (lines text.toList) assignments) :
      Loads e files path (.ok ()) (e.assignAll assignments)
  | stopped {text : String} {before after : List (List Char)} {line : List Char}
      {assignments : List (String × String)} {error : EnvironmentError}
      (h : files.readText path = .ok text) (whole : lines text.toList = before ++ line :: after)
      (said : Says before assignments) (fault : LineFault (before.length + 1) line error) :
      Loads e files path (.error error) (e.assignAll assignments)

theorem loads_load (e : Environment) (files : FileTree) (path : String) :
    Loads e files path (e.load files path).1 (e.load files path).2 := by
  rw [Environment.load]
  cases read : files.readText path with
  | error cause => exact .unreadable read
  | ok text =>
    simp only [Environment.loadText]
    rcases says_or_fault 1 (lines text.toList) with
      ⟨assignments, said⟩ | ⟨before, line, after, assignments, error, whole, said, fault⟩
    · have all := loadLines_append_of_says said e 1 []
      rw [List.append_nil] at all
      rw [all]
      exact .loaded read said
    · rw [whole, loadLines_append_of_says said, Environment.loadLines, readLine_of_lineFault fault]
      rw [Nat.add_comm] at fault
      exact .stopped read whole said fault

/-- Loading that fails leaves the assignments on the lines before the fault in force,
and nothing else has changed. If the file cannot be read as a text, nothing has
changed at all; otherwise the error is that of the first line that cannot be read,
each variable has the value of the last assignment to it on the lines before, and
the settings are as before unless one of these assigns the path of the mapper files. -/
theorem failed_load_keeps_earlier_lines {e : Environment} {files : FileTree} {path : String}
    {error : EnvironmentError} (failed : (e.load files path).1 = .error error) :
    (∃ cause, files.readText path = .error cause ∧ error = .unreadable path cause
        ∧ (e.load files path).2 = e)
      ∨ ∃ text before line after assignments, files.readText path = .ok text
        ∧ lines text.toList = before ++ line :: after ∧ Says before assignments
        ∧ LineFault (before.length + 1) line error
        ∧ (∀ key, (e.load files path).2.find? key
          = (assignments.reverse.lookup key).or (e.find? key))
        ∧ (Settings.mapPathVariable ∉ assignments.map (·.1) →
          (e.load files path).2.settings = e.settings)
        ∧ (assignments = [] → (e.load files path).2 = e) := by
  have ends := loads_load e files path
  generalize e.load files path = result at failed ends
  obtain ⟨status, e'⟩ := result
  obtain rfl : status = .error error := failed
  cases ends with
  | unreadable read => exact .inl ⟨_, read, rfl, rfl⟩
  | @stopped text before after line assignments _ read whole said fault =>
    refine .inr ⟨text, before, line, after, assignments, read, whole, said, fault,
      find?_assignAll e assignments, ?_, ?_⟩
    · intro unassigned
      have none : assignments.reverse.lookup Settings.mapPathVariable = none := by
        rw [List.lookup_eq_none_iff]
        rintro ⟨key, value⟩ member
        rw [bne_iff_ne]
        rintro rfl
        exact unassigned (List.mem_map_of_mem (List.mem_reverse.mp member))
      have kept : (e.assignAll assignments).find? Settings.mapPathVariable
          = e.find? Settings.mapPathVariable := by
        rw [find?_assignAll, none, Option.none_or]
      exact settings_congr kept
    · rintro rfl
      rfl

/-- An assignment before a line without a key is in force, and the one behind it is not. -/
theorem failed_load_keeps_earlier_lines_between :
    let files := (FileTree.emptyAt ["work"]).write ".env"
      (textFile "# maps\nA = 'x'\nexport =y\nB=z")
    let e := Environment.ofList [("B", "kept")]
    (e.load files ".env").1 = .error (.emptyKey 3)
      ∧ (e.load files ".env").2.find? "A" = some "x"
      ∧ (e.load files ".env").2.find? "B" = some "kept"
      ∧ ∃ text before line after assignments, files.readText ".env" = .ok text
        ∧ lines text.toList = before ++ line :: after ∧ Says before assignments
        ∧ LineFault (before.length + 1) line (.emptyKey 3)
        ∧ ∀ key, (e.load files ".env").2.find? key
          = (assignments.reverse.lookup key).or (e.find? key) := by
  intro files e
  have readable : ∃ text, files.readText ".env" = .ok text := ⟨_, rfl⟩
  have failed : (e.load files ".env").1 = .error (.emptyKey 3) := by rfl
  refine ⟨failed, by rfl, by rfl, ?_⟩
  rcases failed_load_keeps_earlier_lines failed with ⟨cause, unreadable, -⟩ | stopped
  · obtain ⟨text, read⟩ := readable
    rw [read] at unreadable
    cases unreadable
  · obtain ⟨text, before, line, after, assignments, read, whole, said, fault, kept, -⟩ := stopped
    exact ⟨text, before, line, after, assignments, read, whole, said, fault, kept⟩

/-- A load that fails can change a variable and the settings: the assignment before
the line that cannot be read is in force. -/
theorem failed_load_changes_settings :
    let files := (FileTree.emptyAt ["work"]).write "new.env"
      (textFile "QUARRY_MAP_PATH=/new\nno assignment")
    let e := Environment.ofList [("QUARRY_MAP_PATH", "/old")]
    (e.load files "new.env").1 = .error (.malformedLine 2)
      ∧ e.settings = ⟨some "/old"⟩ ∧ (e.load files "new.env").2.settings = ⟨some "/new"⟩
      ∧ (e.load files "new.env").2.find? "QUARRY_MAP_PATH" ≠ e.find? "QUARRY_MAP_PATH" :=
  ⟨by rfl, by rfl, by rfl, by decide⟩

end SqlMapper.CommandLine
