/-
Module: SqlMapper.Proofs.Listing
Purpose: The files that a store lists are those it can load.
Main exports: baseName?_eq_some_iff, listedAs?, FileTree.list_eq_ok_iff, available_eq_ok_iff,
  exists_entry_of_isFile, listing_and_loading_agree
-/
import Mathlib.Data.List.Nodup
import SqlMapper.Proofs.Confinement
import SqlMapper.Proofs.PassedCheck

namespace SqlMapper.Store

open SqlMapper.Files SqlMapper.Query

/-!
Loading makes a path of a base name, listing takes base names from the entries of
a directory. The two meet in the name of the file: the path of a file is made of
the path of its directory and an entry there, and an entry is listed under the
base name that its file name is made of. This takes a path of the directory. The
empty path names no directory, although paths that are made with it start in the
working directory.
-/

/-! ### Entries -/

/-- An entry of a directory has a base name if its name is made of one. -/
theorem baseName?_eq_some_iff {entry base : String} :
    baseName? entry = some base ↔ entry = fileName base ∧ isName base.toList = true := by
  have written : (fileName base).toList = base.toList ++ fileEnding.toList := by
    rw [fileName, String.toList_append]
  unfold baseName?
  simp only [Option.ite_none_right_eq_some, Option.some.injEq, Bool.and_eq_true]
  constructor
  · rintro ⟨⟨ending, named⟩, rfl⟩
    obtain ⟨front, whole⟩ := List.isSuffixOf_iff_suffix.mp ending
    have cut : entry.toList.take (entry.toList.length - fileEnding.toList.length) = front := by
      rw [← whole, List.length_append, Nat.add_sub_cancel, List.take_left]
    rw [cut] at named ⊢
    rw [String.toList_ofList]
    refine ⟨?_, named⟩
    rw [← String.toList_inj, fileName, String.toList_append, String.toList_ofList, whole]
  · rintro ⟨rfl, named⟩
    have cut : (fileName base).toList.take
        ((fileName base).toList.length - fileEnding.toList.length) = base.toList := by
      rw [written, List.length_append, Nat.add_sub_cancel, List.take_left]
    rw [cut, String.ofList_toList]
    exact ⟨⟨List.isSuffixOf_iff_suffix.mpr ⟨base.toList, written.symm⟩, named⟩, rfl⟩

/-- The base name under which an entry of a directory is listed, if it is. -/
def listedAs? (files : FileTree) (root entry : String) : Option String :=
  if files.isFile (joinPath root entry) then baseName? entry else none

theorem listedAs?_eq_some_iff {files : FileTree} {root entry base : String} :
    listedAs? files root entry = some base
      ↔ entry = fileName base ∧ isName base.toList = true
        ∧ files.isFile (joinPath root (fileName base)) = true := by
  rw [listedAs?, Option.ite_none_right_eq_some, baseName?_eq_some_iff]
  constructor
  · rintro ⟨file, rfl, named⟩
    exact ⟨rfl, named, file⟩
  · rintro ⟨rfl, named, file⟩
    exact ⟨file, rfl, named⟩

/-! ### Directories -/

/-- What is listed is what a directory holds. -/
theorem list_eq_ok_iff {files : FileTree} {path : String} {entries : List String} :
    files.list path = .ok entries
      ↔ ∃ inside, files.find path = .ok (.directory inside) ∧ inside.map (·.1) = entries := by
  unfold FileTree.list
  cases found : files.find path with
  | error e => simp
  | ok entry =>
    cases entry with
    | file bytes => simp
    | directory inside => simp

/-- A file whose path is made with a path of a directory stands in that directory. -/
theorem exists_entry_of_isFile {files : FileTree} {root name : String} (nonempty : root ≠ "")
    (named : IsEntryName name) (file : files.isFile (joinPath root name) = true) :
    ∃ inside bytes, files.find root = .ok (.directory inside)
      ∧ inside.lookup name = some (.file bytes) := by
  obtain ⟨bytes, found⟩ : ∃ bytes, files.find (joinPath root name) = .ok (.file bytes) := by
    unfold FileTree.isFile at file
    split at file
    · exact ⟨_, by assumption⟩
    · cases file
  have noNul : '\x00' ∉ (joinPath root name).toList := by
    intro nul
    rw [FileTree.find, FileTree.locate_of_nul files nul] at found
    cases found
  have short : (joinPath root name).utf8ByteSize ≤ longestPath := by
    apply Nat.le_of_not_lt
    intro long
    rw [FileTree.find, FileTree.locate_of_long files noNul long] at found
    cases found
  rw [FileTree.find_joinPath files nonempty named short] at found
  cases directory : files.find root with
  | error e =>
    rw [directory] at found
    cases found
  | ok entry =>
    cases entry with
    | file content =>
      rw [directory] at found
      cases found
    | directory inside =>
      rw [directory] at found
      simp only [bind, Except.bind, Entry.child] at found
      split at found
      · cases found
      · split at found
        · cases found
        · rename_i looked
          cases found
          exact ⟨inside, bytes, rfl, looked⟩

/-- Sorted names are the same names. -/
theorem mem_sortNames {names : List String} {name : String} :
    name ∈ sortNames names ↔ name ∈ names := by
  simp [sortNames, Dictionary.mem_names_ofList]

theorem pairwise_sortNames (names : List String) : (sortNames names).Pairwise (· < ·) :=
  Dictionary.pairwise_names _

theorem nodup_of_pairwise_lt {names : List String} (h : names.Pairwise (· < ·)) : names.Nodup :=
  h.imp fun before same => absurd (same ▸ before) (String.lt_irrefl _)

/-- Names that differ are put in order and nothing else. -/
theorem perm_sortNames {names : List String} (distinct : names.Nodup) :
    (sortNames names).Perm names := by
  apply (List.perm_ext_iff_of_nodup (nodup_of_pairwise_lt (pairwise_sortNames names)) distinct).mpr
  intro name
  exact mem_sortNames

/-! ### Listing -/

section

variable {store : Store} {files : FileTree} {root : String}

/-- A listing is made of what the entries of the directory are listed as. -/
theorem available_eq_ok_iff (configured : store.root = some root) {names : List String} :
    store.available files = .ok names
      ↔ ∃ entries, files.list root = .ok entries
        ∧ names = sortNames (entries.filterMap (listedAs? files root)) := by
  have made (entries : List String) :
      (entries.filter fun entry => files.isFile (joinPath root entry)).filterMap baseName?
        = entries.filterMap (listedAs? files root) := by
    rw [List.filterMap_filter]
    rfl
  simp only [available, configured]
  cases files.list root with
  | error e => simp
  | ok entries => simp [made, eq_comm]

/-- The empty path names no directory. -/
theorem available_of_empty (configured : store.root = some "") :
    store.available files = .error (.unreadable "" .notFound) := by
  simp only [available, configured]
  rfl

/-- A name is listed if and only if its file is there. -/
theorem mem_available_iff (configured : store.root = some root) {names : List String}
    (listed : store.available files = .ok names) {base : String} :
    base ∈ names ↔ isName base.toList = true
      ∧ files.isFile (joinPath root (fileName base)) = true := by
  obtain ⟨entries, found, rfl⟩ := (available_eq_ok_iff configured).mp listed
  rw [mem_sortNames, List.mem_filterMap]
  constructor
  · rintro ⟨entry, _, listedAs⟩
    exact (listedAs?_eq_some_iff.mp listedAs).2
  · rintro ⟨named, file⟩
    have nonempty : root ≠ "" := by
      rintro rfl
      cases found
    obtain ⟨inside, bytes, directory, looked⟩ :=
      exists_entry_of_isFile nonempty (isEntryName_fileName named) file
    obtain ⟨inside', directory', rfl⟩ := list_eq_ok_iff.mp found
    obtain rfl : inside' = inside := by
      rw [directory] at directory'
      cases directory'
      rfl
    obtain ⟨before, after, rfl, _⟩ := List.lookup_eq_some_iff.mp looked
    exact ⟨fileName base, by simp, listedAs?_eq_some_iff.mpr ⟨rfl, named, file⟩⟩

/-- What is loaded for the first time is the text of a file of the directory. -/
theorem isFile_of_load (configured : store.root = some root) {base text : String}
    (uncached : store.cache.find? (fileName base) = none)
    (loaded : (store.load files base).1 = .ok text) :
    isName base.toList = true ∧ files.isFile (joinPath root (fileName base)) = true := by
  by_cases named : isName base.toList = true
  · by_cases file : files.isFile (joinPath root (fileName base)) = true
    · exact ⟨named, file⟩
    · simp [load, named, uncached, readFile, configured, file] at loaded
  · simp [load, named] at loaded

/-- A file that is there can fail to be loaded only for what it holds. -/
theorem error_of_load (configured : store.root = some root) {base : String} {e : QueryError}
    (named : isName base.toList = true)
    (file : files.isFile (joinPath root (fileName base)) = true)
    (failed : (store.load files base).1 = .error e) :
    e = .unreadable (joinPath root (fileName base)) .notText := by
  rw [FileTree.isFile_eq] at file
  obtain ⟨bytes, holds⟩ := Option.isSome_iff_exists.mp file
  cases cached : store.cache.find? (fileName base) with
  | some text => simp [load_of_cached named cached] at failed
  | none =>
    cases text : String.fromUTF8? bytes with
    | some text =>
      simp [load, named, cached, readFile, configured, FileTree.isFile_eq, holds,
        FileTree.readText_eq holds, text] at failed
    | none =>
      simp [load, named, cached, readFile, configured, FileTree.isFile_eq, holds,
        FileTree.readText_eq holds, text] at failed
      exact failed.symm

end

/-- Listing and loading agree. Unless the path of the directory is empty, a file
that can be loaded is listed. What is listed is in ascending order; each name is
that of a file of the directory, and can fail to be loaded only because the file
holds no text; and every file of the directory that has a base name is listed
once, while no other entry adds a name. -/
theorem listing_and_loading_agree {store : Store} {files : FileTree} {root : String}
    (configured : store.root = some root) :
    (root ≠ "" → ∀ base text, store.cache.find? (fileName base) = none →
        (store.load files base).1 = .ok text →
        ∃ names, store.available files = .ok names ∧ base ∈ names)
      ∧ (root = "" → store.available files = .error (.unreadable "" .notFound))
      ∧ ∀ names, store.available files = .ok names →
        names.Pairwise (· < ·)
          ∧ (∀ base ∈ names, isName base.toList = true
            ∧ ∀ e, (store.load files base).1 = .error e →
              e = .unreadable (joinPath root (fileName base)) .notText)
          ∧ ∃ inside, files.find root = .ok (.directory inside)
            ∧ (∀ base ∈ names, ∃ bytes, inside.lookup (fileName base) = some (.file bytes))
            ∧ ((inside.map (·.1)).Nodup →
              names.Perm ((inside.map (·.1)).filterMap (listedAs? files root))) := by
  refine ⟨?_, ?_, ?_⟩
  · intro nonempty base text uncached loaded
    obtain ⟨named, file⟩ := isFile_of_load configured uncached loaded
    obtain ⟨inside, _, directory, _⟩ :=
      exists_entry_of_isFile nonempty (isEntryName_fileName named) file
    have entries := list_eq_ok_iff.mpr ⟨inside, directory, rfl⟩
    have listed := (available_eq_ok_iff configured).mpr ⟨_, entries, rfl⟩
    exact ⟨_, listed, (mem_available_iff configured listed).mpr ⟨named, file⟩⟩
  · rintro rfl
    exact available_of_empty configured
  · intro names listed
    obtain ⟨entries, found, made⟩ := (available_eq_ok_iff configured).mp listed
    obtain ⟨inside, directory, rfl⟩ := list_eq_ok_iff.mp found
    have nonempty : root ≠ "" := by
      rintro rfl
      cases found
    refine ⟨pairwise_available listed, ?_, inside, directory, ?_, ?_⟩
    · intro base member
      obtain ⟨named, file⟩ := (mem_available_iff configured listed).mp member
      exact ⟨named, fun e => error_of_load configured named file⟩
    · intro base member
      obtain ⟨named, file⟩ := (mem_available_iff configured listed).mp member
      obtain ⟨inside', bytes, directory', looked⟩ :=
        exists_entry_of_isFile nonempty (isEntryName_fileName named) file
      rw [directory] at directory'
      cases directory'
      exact ⟨bytes, looked⟩
    · intro distinct
      rw [made]
      apply perm_sortNames
      apply distinct.filterMap
      intro entry other base listedAs otherListedAs
      rw [(listedAs?_eq_some_iff.mp listedAs).1, (listedAs?_eq_some_iff.mp otherListedAs).1]

private def mixedFiles : FileTree :=
  ["User.xml", "Sub.xml/Inner.xml", ".xml", "a.b.xml", "bad_name.xml", "notes.txt", "Up.XML"].foldl
    (fun files name => files.write ("/maps/" ++ name) (textFile "<sql id='a'/>"))
    ((FileTree.emptyAt []).write "/maps/Bin.xml" (.file ⟨#[0xff]⟩))

/-- Among entries that are listed under no name, a file that can be loaded and one
that holds no text. -/
theorem listing_and_loading_agree_mixed :
    let store := Store.empty.configure "/maps/"
    store.available mixedFiles = .ok ["Bin", "User"]
      ∧ (∃ names, store.available mixedFiles = .ok names ∧ "User" ∈ names)
      ∧ (store.load mixedFiles "Bin").1 = .error (.unreadable "/maps/Bin.xml" .notText) := by
  intro store
  have configured : store.root = some "/maps/" := rfl
  have loaded : (store.load mixedFiles "User").1 = .ok "<sql id='a'/>" := by rfl
  have agree := @listing_and_loading_agree store mixedFiles _ configured
  refine ⟨by rfl, agree.1 (by decide) "User" _ rfl loaded, by rfl⟩

/-- A file in the working directory is loaded with the empty path, and the listing fails. -/
theorem listing_fails_with_empty_path :
    let files := (FileTree.emptyAt ["work"]).write "User.xml" (textFile "<sql id='a'/>")
    let store := Store.empty.configure ""
    (store.load files "User").1 = .ok "<sql id='a'/>"
      ∧ store.available files = .error (.unreadable "" .notFound) :=
  ⟨by rfl, by rfl⟩

end SqlMapper.Store
