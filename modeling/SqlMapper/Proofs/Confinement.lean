/-
Module: SqlMapper.Proofs.Confinement
Purpose: A store sees nothing but the mapper files in the directories it is given.
Main exports: isEntryName_fileName, SameMappers, load_congr, Step.isLookup, Step.run_congr,
  lookups_confined
-/
import SqlMapper.Proofs.FilePaths
import SqlMapper.Proofs.StoreHistory

namespace SqlMapper.Store

open SqlMapper.Files SqlMapper.Parameter SqlMapper.Query

/-!
Whatever a name is made of, it is checked before a path is made of it, and so is
the file name in the id of a query; what is included is looked up in the
document only. So of two trees of files that hold the same mapper files in the
directories a store is given, the store cannot tell one from the other.
-/

/-! ### Names of mapper files -/

/-- The file of a base name is one entry of a directory. -/
theorem isEntryName_fileName {base : String} (name : isName base.toList = true) :
    IsEntryName (fileName base) := by
  rw [isName, Bool.and_eq_true, List.all_eq_true] at name
  have written : (fileName base).toList = base.toList ++ ['.', 'x', 'm', 'l'] := by
    simp [fileName, fileEnding]
  have absent : ∀ c, c.isAlphanum = false → c ∉ ['.', 'x', 'm', 'l'] →
      c ∉ (fileName base).toList := by
    intro c special notEnding member
    rw [written, List.mem_append] at member
    rcases member with member | member
    · have letter := name.2 c member
      rw [special] at letter
      cases letter
    · exact notEnding member
  have long : 2 < (fileName base).toList.length := by
    rw [written, List.length_append]
    simp
  refine ⟨absent '/' (by decide) (by decide), absent '\x00' (by decide) (by decide), ?_, ?_, ?_⟩
  all_goals
    intro same
    rw [same] at long
    exact absurd long (by decide)

/-- Two trees of files hold the same mapper files in a directory. -/
def SameMappers (files files' : FileTree) (root : String) : Prop :=
  ∀ base : String, isName base.toList = true →
    files.bytes? (joinPath root (fileName base)) = files'.bytes? (joinPath root (fileName base))

/-! ### Loading -/

theorem readFile_congr {files files' : FileTree} {root : Option String} {name : String}
    (same : ∀ path, root = some path →
      files.bytes? (joinPath path name) = files'.bytes? (joinPath path name)) :
    readFile root files name = readFile root files' name := by
  cases root with
  | none => rfl
  | some path =>
    have same := same path rfl
    simp only [readFile, FileTree.isFile_eq, same]
    cases bytes : files'.bytes? (joinPath path name) with
    | none => rfl
    | some content =>
      rw [bytes] at same
      simp only [FileTree.readText_eq same, FileTree.readText_eq bytes]

/-- Whatever the name, loading sees only the mapper files in the directory. -/
theorem load_congr {store : Store} {files files' : FileTree}
    (same : ∀ root, store.root = some root → SameMappers files files' root) (base : String) :
    store.load files base = store.load files' base := by
  unfold load
  by_cases name : isName base.toList = true
  · rw [if_pos name, if_pos name, readFile_congr fun root given => same root given base name]
  · rw [if_neg name, if_neg name]

/-! ### Steps -/

/-- Steps that look something up in the store, or give it another directory. -/
def Step.isLookup : Step → Bool
  | .configure _ | .root | .load _ | .isCached _ | .cached | .render _ _ | .renderStatement _ _
  | .statementIds _ | .document _ => true
  | .replace _ | .write _ _ | .remove _ | .available => false

/-- A lookup has the same answer and does the same to the store. -/
theorem Step.run_congr {store : Store} {files files' : FileTree}
    (same : ∀ root, store.root = some root → SameMappers files files' root) {step : Step}
    (lookup : step.isLookup = true) :
    ∃ answer later, step.run ⟨files, store⟩ = (answer, ⟨files, later⟩)
      ∧ step.run ⟨files', store⟩ = (answer, ⟨files', later⟩) := by
  cases asks : step.base? with
  | some base =>
    rw [run_of_base? asks, run_of_base? asks, load_congr same]
    exact ⟨_, _, rfl, rfl⟩
  | none =>
    cases step with
    | configure path => exact ⟨_, _, rfl, rfl⟩
    | root => exact ⟨_, _, rfl, rfl⟩
    | isCached base => exact ⟨_, _, rfl, rfl⟩
    | cached => exact ⟨_, _, rfl, rfl⟩
    | render query bag =>
      obtain ⟨e, parsed⟩ := exists_refusal_of_asks asks
      simp [run, World.answer, Store.render, Store.renderStatement, parsed]
    | renderStatement query bag =>
      obtain ⟨e, parsed⟩ := exists_refusal_of_asks asks
      simp [run, World.answer, Store.renderStatement, parsed]
    | load base => cases asks
    | statementIds base => cases asks
    | document base => cases asks
    | replace settings => cases lookup
    | write path entry => cases lookup
    | remove path => cases lookup
    | available => cases lookup

/-- A course of lookups, whatever names and ids are asked for, has the same
answers and leaves the same store for any two trees of files that hold the same
mapper files in every directory the store is given. -/
theorem lookups_confined {store : Store} {files files' : FileTree} {steps : List Step}
    (lookups : ∀ step ∈ steps, step.isLookup = true)
    (same : ∀ root, store.root = some root ∨ .configure root ∈ steps →
      SameMappers files files' root) :
    (runAll ⟨files, store⟩ steps).1 = (runAll ⟨files', store⟩ steps).1
      ∧ (runAll ⟨files, store⟩ steps).2.store = (runAll ⟨files', store⟩ steps).2.store := by
  induction steps generalizing store with
  | nil => exact ⟨rfl, rfl⟩
  | cons step rest ih =>
    rw [List.forall_mem_cons] at lookups
    have here : ∀ root, store.root = some root → SameMappers files files' root :=
      fun root given => same root (.inl given)
    obtain ⟨answer, later, run, run'⟩ := Step.run_congr here lookups.1
    have set : later.root = step.configured?.or store.root := by
      have single : ∀ settings, step ≠ .replace settings := by
        rintro settings rfl
        cases lookups.1
      have root := @Step.root_run ⟨files, store⟩ step single
      rwa [run] at root
    have others : ∀ root, later.root = some root ∨ .configure root ∈ rest →
        SameMappers files files' root := by
      rintro root (given | member)
      · rw [set, Option.or_eq_some_iff] at given
        rcases given with configured | ⟨_, before⟩
        · cases step with
          | configure path =>
            cases configured
            exact same root (.inr List.mem_cons_self)
          | _ => cases configured
        · exact same root (.inl before)
      · exact same root (.inr (List.mem_cons_of_mem _ member))
    obtain ⟨answers, store'⟩ := ih lookups.2 others
    simp only [runAll, run, run', answers, store', and_self]

private def withSecret (secret : String) : FileTree :=
  ((FileTree.emptyAt []).write "/maps/Test.xml" (textFile "<sql id='a'>1</sql>")).write
    "/Secret.xml" (textFile secret)

private def curiousSteps : List Step :=
  [.load "Secret", .configure "/maps", .load "../Secret", .load "Secret", .load "Test\n",
    .render "Test.a" (fun _ => none), .render "../Secret.a" (fun _ => none)]

/-- No name leads out of the directory to a file beside it. -/
theorem lookups_confined_secret :
    (∀ step ∈ curiousSteps, step.isLookup = true)
      ∧ (withSecret "one").readText "/Secret.xml" ≠ (withSecret "two").readText "/Secret.xml"
      ∧ (runAll ⟨withSecret "one", .empty⟩ curiousSteps).1
        = (runAll ⟨withSecret "two", .empty⟩ curiousSteps).1 := by
  have lookups : ∀ step ∈ curiousSteps, step.isLookup = true := by
    simp [curiousSteps, Step.isLookup]
  have same : ∀ root, Store.empty.root = some root ∨ .configure root ∈ curiousSteps →
      SameMappers (withSecret "one") (withSecret "two") root := by
    rintro root (given | member)
    · cases given
    · obtain rfl : root = "/maps" := by simpa [curiousSteps] using member
      have directory : (withSecret "one").find "/maps" = (withSecret "two").find "/maps" := by rfl
      intro base name
      simp only [FileTree.bytes?, FileTree.find_joinPath_congr (by decide)
        (isEntryName_fileName name) directory]
  refine ⟨lookups, ?_, (lookups_confined lookups same).1⟩
  have one : (withSecret "one").readText "/Secret.xml" = .ok "one" := by rfl
  have two : (withSecret "two").readText "/Secret.xml" = .ok "two" := by rfl
  rw [one, two]
  simp

end SqlMapper.Store
