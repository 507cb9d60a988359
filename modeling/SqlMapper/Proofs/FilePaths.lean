/-
Module: SqlMapper.Proofs.FilePaths
Purpose: What the path of a name in a directory leads to.
Main exports: components_append, follow_append, IsEntryName, FileTree.find_joinPath,
  FileTree.find_joinPath_congr, FileTree.bytes?, FileTree.isFile_eq, FileTree.readText_eq
-/
import SqlMapper.Files.Tree

namespace SqlMapper.Files

/-!
A path is followed one component after the other, so the path of a name in a
directory leads to the directory first. Nothing but what stands there then
matters for where the name leads, if the name is one component and no dots.
-/

/-! ### Components -/

theorem components_cons_slash (cs : List Char) : components ('/' :: cs) = "" :: components cs := rfl

theorem components_ne_nil (cs : List Char) : components cs ≠ [] := by
  cases cs with
  | nil => exact List.cons_ne_nil _ _
  | cons c cs =>
    rw [components, List.foldr_cons]
    split
    · exact List.cons_ne_nil _ _
    · split <;> exact List.cons_ne_nil _ _

/-- A character that is no slash joins the first component. -/
theorem components_cons {c : Char} (h : c ≠ '/') {cs : List Char} {name : String}
    {others : List String} (rest : components cs = name :: others) :
    components (c :: cs) = (String.singleton c ++ name) :: others := by
  unfold components at rest ⊢
  rw [List.foldr_cons, if_neg h, rest]

/-- A slash separates the components before it from those after it. -/
theorem components_append (cs after : List Char) :
    components (cs ++ '/' :: after) = components cs ++ components after := by
  induction cs with
  | nil => rfl
  | cons c cs ih =>
    by_cases slash : c = '/'
    · subst slash
      rw [List.cons_append, components_cons_slash, ih]
      rfl
    · obtain ⟨name, others, rest⟩ := List.exists_cons_of_ne_nil (components_ne_nil cs)
      rw [rest, List.cons_append] at ih
      rw [List.cons_append, components_cons slash ih, components_cons slash rest, List.cons_append]

/-- A text without a slash is one component. -/
theorem components_of_not_mem {cs : List Char} (h : '/' ∉ cs) :
    components cs = [String.ofList cs] := by
  induction cs with
  | nil => rfl
  | cons c cs ih =>
    rw [List.mem_cons, not_or] at h
    rw [components_cons (Ne.symm h.1) (ih h.2)]
    simp

/-! ### Following components -/

theorem follow_append (entry : Entry) (above : List (String × Entry)) (names others : List String) :
    follow entry above (names ++ others)
      = (follow entry above names >>= fun found => follow found.1 found.2 others) := by
  induction names generalizing entry above with
  | nil => rfl
  | cons name names ih =>
    cases entry with
    | file bytes => rfl
    | directory entries =>
      simp only [List.cons_append, follow]
      split
      · exact ih _ _
      · split
        · cases above with
          | nil => exact ih _ _
          | cons step above => exact ih _ _
        · split
          · rfl
          · split
            · rfl
            · exact ih _ _

/-- An empty component before another one stays where it is. -/
theorem follow_empty_cons (entry : Entry) (above : List (String × Entry)) (name : String)
    (rest : List String) :
    follow entry above ("" :: name :: rest) = follow entry above (name :: rest) := by
  cases entry with
  | file bytes => rfl
  | directory entries =>
    simp only [follow]
    rfl

/-- An empty component at the end of a path stays where the path leads. -/
theorem follow_through_empty (entry : Entry) (above : List (String × Entry)) (names : List String)
    (name : String) :
    follow entry above (names ++ [name])
      = (follow entry above (names ++ [""]) >>= fun found => follow found.1 found.2 [name]) := by
  rw [← follow_append, List.append_assoc, follow_append, follow_append]
  congr 1
  funext found
  exact (follow_empty_cons found.1 found.2 name []).symm

/-- What a name leads to in an entry. -/
def Entry.child (name : String) : Entry → Except FileError Entry
  | .file _ => .error .notADirectory
  | .directory entries =>
      if longestName < name.utf8ByteSize then .error .nameTooLong
      else match entries.lookup name with
        | none => .error .notFound
        | some entry => .ok entry

/-- A name that can stand in a directory: one component, and no dots that lead
elsewhere. -/
structure IsEntryName (name : String) : Prop where
  single : '/' ∉ name.toList
  noNul : '\x00' ∉ name.toList
  nonempty : name ≠ ""
  notHere : name ≠ "."
  notAbove : name ≠ ".."

theorem follow_single {name : String} (named : IsEntryName name) (entry : Entry)
    (above : List (String × Entry)) :
    (follow entry above [name]).map (·.1) = entry.child name := by
  cases entry with
  | file bytes => rfl
  | directory entries =>
    simp only [follow, named.nonempty, named.notHere, named.notAbove, or_self, if_false,
      Entry.child]
    split
    · rfl
    · cases entries.lookup name <;> rfl

/-! ### Paths of names in directories -/

namespace FileTree

/-- The place that a path starts at. -/
def startOf (t : FileTree) (path : List Char) : List String :=
  if path.head? = some '/' then [] else t.workingDirectory

theorem startOf_append (t : FileTree) {path : List Char} (nonempty : path ≠ [])
    (more : List Char) : t.startOf (path ++ more) = t.startOf path := by
  cases path with
  | nil => exact absurd rfl nonempty
  | cons c cs => rfl

theorem locate_eq_follow (t : FileTree) {path : String} (nonempty : path ≠ "")
    (noNul : '\x00' ∉ path.toList) (short : path.utf8ByteSize ≤ longestPath) :
    t.locate path = follow t.top [] (t.startOf path.toList ++ components path.toList) := by
  have isPath : path.toList ≠ [] := by simpa using nonempty
  simp only [locate, if_neg noNul, if_neg (Nat.not_lt.mpr short), startOf]
  split
  · exact absurd ‹_› isPath
  · rename_i absolute
    rw [absolute]
    rfl
  · rename_i relative
    rw [if_neg]
    intro slash
    obtain ⟨rest, absolute⟩ := List.head?_eq_some_iff.mp slash
    exact relative rest absolute

theorem locate_of_nul (t : FileTree) {path : String} (nul : '\x00' ∈ path.toList) :
    t.locate path = .error .nulByte := by
  simp only [locate, if_pos nul]

theorem locate_of_long (t : FileTree) {path : String} (noNul : '\x00' ∉ path.toList)
    (long : longestPath < path.utf8ByteSize) : t.locate path = .error .nameTooLong := by
  simp only [locate, if_neg noNul, if_pos long]

/-- The path of a name in a directory is the path of the directory, a slash if
there is none at its end, and the name. -/
theorem joinPath_cases {directory : String} (nonempty : directory ≠ "") (name : String) :
    (∃ path, directory.toList = path ++ ['/'] ∧ joinPath directory name = directory ++ name)
      ∨ joinPath directory name = directory ++ "/" ++ name := by
  have isPath : directory.toList ≠ [] := by simpa using nonempty
  unfold joinPath
  split
  · rename_i last
    exact absurd (List.getLast?_eq_none_iff.mp last) isPath
  · rename_i last
    obtain ⟨path, whole⟩ := List.getLast?_eq_some_iff.mp last
    exact .inl ⟨path, whole, rfl⟩
  · exact .inr rfl

/-- The path of a name leads to the directory first. -/
theorem follow_joinPath (t : FileTree) {directory name : String} (nonempty : directory ≠ "")
    (named : IsEntryName name) :
    follow t.top [] (t.startOf (joinPath directory name).toList
        ++ components (joinPath directory name).toList)
      = (follow t.top [] (t.startOf directory.toList ++ components directory.toList)
          >>= fun found => follow found.1 found.2 [name]) := by
  have isPath : directory.toList ≠ [] := by simpa using nonempty
  have single := components_of_not_mem named.single
  rw [String.ofList_toList] at single
  rcases joinPath_cases nonempty name with ⟨path, whole, joined⟩ | joined
  · have ending : components directory.toList = components path ++ [""] := by
      rw [whole, components_append]
      rfl
    have written : directory.toList ++ name.toList = path ++ '/' :: name.toList := by
      rw [whole, List.append_assoc, List.singleton_append]
    rw [joined, String.toList_append, t.startOf_append isPath, written, components_append, single,
      ending, ← List.append_assoc, ← List.append_assoc, follow_through_empty]
  · have written : (joinPath directory name).toList = directory.toList ++ '/' :: name.toList := by
      rw [joined]
      simp
    rw [written, t.startOf_append isPath, components_append, single, ← List.append_assoc,
      follow_append]

/-- What the path of a name leads to is what the name leads to in the directory. -/
theorem find_joinPath (t : FileTree) {directory name : String} (nonempty : directory ≠ "")
    (named : IsEntryName name) (short : (joinPath directory name).utf8ByteSize ≤ longestPath) :
    t.find (joinPath directory name) = (t.find directory >>= Entry.child name) := by
  obtain ⟨separator, clear, joined⟩ : ∃ separator : String, '\x00' ∉ separator.toList
      ∧ joinPath directory name = directory ++ (separator ++ name) := by
    rcases joinPath_cases nonempty name with ⟨path, whole, joined⟩ | joined
    · exact ⟨"", by simp, by rw [joined, String.empty_append]⟩
    · exact ⟨"/", by simp, by rw [joined, String.append_assoc]⟩
  have isPath : joinPath directory name ≠ "" := by
    rw [joined]
    simp [nonempty]
  by_cases nul : '\x00' ∈ directory.toList
  · have nul' : '\x00' ∈ (joinPath directory name).toList := by
      rw [joined, String.toList_append]
      exact List.mem_append_left _ nul
    rw [find, find, locate_of_nul t nul, locate_of_nul t nul']
    rfl
  · have nul' : '\x00' ∉ (joinPath directory name).toList := by
      rw [joined, String.toList_append, String.toList_append, List.mem_append, List.mem_append]
      exact not_or.mpr ⟨nul, not_or.mpr ⟨clear, named.noNul⟩⟩
    have shorter : directory.utf8ByteSize ≤ longestPath := by
      rw [joined, String.utf8ByteSize_append] at short
      omega
    rw [find, find, locate_eq_follow t nonempty nul shorter, locate_eq_follow t isPath nul' short,
      follow_joinPath t nonempty named]
    cases follow t.top [] (t.startOf directory.toList ++ components directory.toList) with
    | error e => rfl
    | ok found => exact follow_single named found.1 found.2

/-- Trees in which a directory holds the same have the same under its names. -/
theorem find_joinPath_congr {t t' : FileTree} {directory name : String} (nonempty : directory ≠ "")
    (named : IsEntryName name) (same : t.find directory = t'.find directory) :
    t.find (joinPath directory name) = t'.find (joinPath directory name) := by
  by_cases nul : '\x00' ∈ (joinPath directory name).toList
  · rw [find, find, locate_of_nul t nul, locate_of_nul t' nul]
  · by_cases short : (joinPath directory name).utf8ByteSize ≤ longestPath
    · rw [find_joinPath t nonempty named short, find_joinPath t' nonempty named short, same]
    · have long := Nat.lt_of_not_le short
      rw [find, find, locate_of_long t nul long, locate_of_long t' nul long]

/-! ### Files -/

/-- The bytes of the file that a path names, if it names a file. -/
def bytes? (t : FileTree) (path : String) : Option ByteArray :=
  match t.find path with
  | .ok (.file bytes) => some bytes
  | _ => none

theorem isFile_eq (t : FileTree) (path : String) : t.isFile path = (t.bytes? path).isSome := by
  unfold isFile bytes?
  cases t.find path with
  | error e => rfl
  | ok entry => cases entry <;> rfl

theorem readText_eq {t : FileTree} {path : String} {bytes : ByteArray}
    (h : t.bytes? path = some bytes) :
    t.readText path = (String.fromUTF8? bytes).elim (.error .notText) .ok := by
  unfold bytes? at h
  split at h
  · rename_i found
    cases h
    simp only [readText, found]
    cases String.fromUTF8? bytes <;> rfl
  · cases h

end FileTree

end SqlMapper.Files
