/-
Module: SqlMapper.Proofs.PassedCheck
Purpose: What a check that finds nothing wrong promises for every later rendering.
Main exports: RuledOut, Store.Holds, Store.Holds.runAll, renderIn_eq_notDefined_iff,
  passed_check_protects
-/
import SqlMapper.CommandLine.Report
import SqlMapper.Proofs.StoreHistory

namespace SqlMapper.Query

open SqlMapper.Text

/-!
A check reads every file that the store can load, and what was read stays in the
cache. So later renderings work on the very document that was checked, whatever
happened to the files and the directory since. The scans look into all branches,
therefore no rendering of that document can meet what they would have listed.
-/

/-- The errors that a check which finds nothing wrong rules out. -/
def RuledOut : QueryError → Prop
  | .invalidId _ | .invalidFileName _ | .rootNotSet | .fileNotFound _ | .unreadable _ _
  | .markup _ | .unsupportedTag _ => True
  | .notDefined _ | .inclusionCycle _ | .condition _ => False

/-- A name holds no dot. -/
theorem dot_not_mem_of_isName {cs : List Char} (h : isName cs = true) : '.' ∉ cs := by
  rw [isName, Bool.and_eq_true, List.all_eq_true] at h
  intro member
  exact absurd (h.2 '.' member) (by decide)

/-- An id made of two names is read as it was written. -/
theorem QueryId.parse_text {id : QueryId} (file : isName id.file.toList = true)
    (statement : isName id.statement.toList = true) : QueryId.parse id.text = .ok id := by
  have written : id.text.toList = id.file.toList ++ '.' :: id.statement.toList := by
    simp [QueryId.text]
  rw [QueryId.parse, written, cutAt?_append (dot_not_mem_of_isName file)]
  simp [file, statement]

end SqlMapper.Query

namespace SqlMapper.Store

open SqlMapper.Document SqlMapper.Files SqlMapper.Parameter SqlMapper.Query

/-! ### What stays in the cache -/

/-- Loading a file leaves what is in the cache. -/
theorem find?_load {store : Store} {name text : String}
    (cached : store.cache.find? name = some text) (files : FileTree) (base : String) :
    (store.load files base).2.cache.find? name = some text := by
  rcases load_cases store files base with ⟨e, _, h⟩ | ⟨other, _, ⟨_, h⟩ | ⟨uncached, h⟩⟩
  · rw [h, cached]
  · rw [h, cached]
  · have apart : name ≠ fileName base := by
      rintro rfl
      rw [uncached] at cached
      cases cached
    rw [h, Dictionary.find?_insert, if_neg apart, cached]

/-- A step on a store leaves what is in the cache. -/
theorem Step.find?_run {world : World} {name text : String}
    (cached : world.store.cache.find? name = some text) {step : Step}
    (single : ∀ settings, step ≠ .replace settings) :
    (step.run world).2.store.cache.find? name = some text := by
  cases asks : step.base? with
  | none =>
    rw [store_run_of_base?_eq_none asks single]
    exact cached
  | some base =>
    rw [run_of_base? asks]
    exact find?_load cached world.files base

/-- A store has read the file with a base name, and it is the text of a document. -/
structure Holds (store : Store) (base : String) (d : SqlMapper.Document) : Prop where
  named : isName base.toList = true
  parsed : ∃ text, store.cache.find? (fileName base) = some text ∧ Document.parse text = .ok d

namespace Holds

variable {store : Store} {base : String} {d : SqlMapper.Document}

/-- Where a document was found, the store holds it afterwards. -/
theorem of_document {files : FileTree} (found : (store.document files base).1 = .ok d) :
    (store.document files base).2.Holds base d := by
  simp only [Store.document] at found ⊢
  rcases load_cases store files base with ⟨e, _, h⟩ | ⟨text, named, cached⟩
  · rw [h] at found
    cases found
  · have loaded : (store.load files base).1 = .ok text := by
      rcases cached with ⟨_, h⟩ | ⟨_, h⟩ <;> rw [h]
    have stored : (store.load files base).2.cache.find? (fileName base) = some text := by
      rcases cached with ⟨there, h⟩ | ⟨_, h⟩
      · rw [h, there]
      · rw [h, Dictionary.find?_insert, if_pos rfl]
    refine ⟨named, text, stored, ?_⟩
    rw [loaded, parseLoaded] at found
    split at found
    · cases found
      assumption
    · cases found

theorem load (h : store.Holds base d) (files : FileTree) (other : String) :
    (store.load files other).2.Holds base d := by
  obtain ⟨text, cached, parsed⟩ := h.parsed
  exact ⟨h.named, text, find?_load cached files other, parsed⟩

/-- Whatever is done to the store and the files, the store holds the document. -/
theorem runAll {world : World} (h : world.store.Holds base d) {steps : List Step}
    (single : ∀ settings, .replace settings ∉ steps) :
    (Store.runAll world steps).2.store.Holds base d := by
  induction steps generalizing world with
  | nil => exact h
  | cons step rest ih =>
    obtain ⟨alone, others⟩ := single_cons single
    obtain ⟨text, cached, parsed⟩ := h.parsed
    exact ih ⟨h.named, text, Step.find?_run cached alone, parsed⟩ others

/-- The document is found, whatever the files hold. -/
theorem document (h : store.Holds base d) (files : FileTree) :
    store.document files base = (.ok d, store) := by
  obtain ⟨text, cached, parsed⟩ := h.parsed
  simp only [Store.document, load_of_cached h.named cached, parseLoaded, parsed]

/-- A query is rendered in the document, whatever the files hold. -/
theorem renderStatement (h : store.Holds base d) {x : String} (name : isName x.toList = true)
    (files : FileTree) (bag : Bag) :
    store.renderStatement files (base ++ "." ++ x) bag = (renderIn ⟨base, x⟩ bag d, store) := by
  have read : QueryId.parse (base ++ "." ++ x) = .ok ⟨base, x⟩ :=
    @QueryId.parse_text ⟨base, x⟩ h.named name
  simp only [Store.renderStatement, read, h.document files]
  rfl

theorem render (h : store.Holds base d) {x : String} (name : isName x.toList = true)
    (files : FileTree) (bag : Bag) :
    (store.render files (base ++ "." ++ x) bag).1
      = (renderIn ⟨base, x⟩ bag d).map RenderedQuery.sql := by
  simp only [Store.render, h.renderStatement name files bag]

end Holds

/-! ### Rendering what was scanned -/

/-- Of a document in which the scans find nothing, no query is refused for what
they would have listed. -/
theorem not_ruledOut_of_renderIn {d : SqlMapper.Document} (supported : d.unsupportedTags = [])
    (valid : d.invalidDirectives = []) {id : QueryId} {bag : Bag} {e : QueryError}
    (fails : renderIn id bag d = .error e) : ¬ RuledOut e := by
  unfold renderIn at fails
  split at fails
  · cases fails
    exact not_false
  · rename_i s found
    have cause := staticCause_of_renderStatement (mem_of_statement? found)
      (map_eq_error_iff.mp fails)
    intro ruled
    cases e with
    | unsupportedTag tag =>
      obtain ⟨via, _, listed⟩ := cause
      rw [supported] at listed
      cases listed
    | markup error =>
      obtain ⟨via, tag, _, listed⟩ := cause
      rw [valid] at listed
      cases listed
    | rootNotSet | fileNotFound _ | invalidId _ | invalidFileName _ | unreadable _ _ => exact cause
    | notDefined _ | inclusionCycle _ | condition _ => exact ruled

/-- A query is not defined if and only if no statement has its id: an inclusion
of it never fails for that, once the query itself is found. -/
theorem renderIn_eq_notDefined_iff {d : SqlMapper.Document} {id : QueryId} {bag : Bag} :
    renderIn id bag d = .error (.notDefined id.text) ↔ id.statement ∉ d.ids := by
  constructor
  · intro fails listed
    obtain ⟨s, member, same⟩ := List.mem_map.mp listed
    obtain ⟨found, hfound⟩ := exists_statement?_of_mem member
    rw [same] at hfound
    simp only [renderIn, hfound] at fails
    obtain ⟨refid, written, _, missing⟩ := staticCause_of_renderStatement
      (mem_of_statement? hfound) (map_eq_error_iff.mp fails)
    have reads : id.statement = refid := (String.append_right_inj _).mp written
    rw [← reads, hfound] at missing
    cases missing
  · intro unlisted
    rw [renderIn]
    cases found : d.statement? id.statement with
    | none => rfl
    | some s => exact absurd (mem_ids_of_statement? found) unlisted

/-- The files that can be loaded are listed in order, each once. -/
theorem pairwise_available {store : Store} {files : FileTree} {names : List String}
    (listed : store.available files = .ok names) : names.Pairwise (· < ·) := by
  unfold available at listed
  split at listed
  · cases listed
  · split at listed
    · cases listed
      exact Dictionary.pairwise_names _
    · cases listed

end SqlMapper.Store

namespace SqlMapper.CommandLine

open SqlMapper.Files SqlMapper.Markup SqlMapper.Query SqlMapper.Store

/-! ### Checks -/

/-- A report in which nothing is wrong is the report on a document that the
store holds. -/
def Vouched (store : Store) (report : FileReport) : Prop :=
  report.isOk = true → ∃ d, store.Holds report.file d ∧ report = .ofDocument report.file d

theorem isOk_ofDocument_iff {file : String} {d : SqlMapper.Document} :
    (FileReport.ofDocument file d).isOk = true
      ↔ d.unsupportedTags = [] ∧ d.invalidDirectives = [] := by
  simp [FileReport.isOk, FileReport.ofDocument]

theorem file_checkFile (store : Store) (files : FileTree) (file : String) :
    (checkFile store files file).1.file = file := by
  unfold checkFile
  split <;> rfl

/-- A check does to the store what loading the file does. -/
theorem store_checkFile (store : Store) (files : FileTree) (file : String) :
    (checkFile store files file).2 = (store.load files file).2 := by
  have after : (store.load files file).2 = (store.document files file).2 := rfl
  rw [after]
  unfold checkFile
  split <;> rename_i checked <;> rw [checked]

theorem vouched_checkFile (store : Store) (files : FileTree) (file : String) :
    Vouched (checkFile store files file).2 (checkFile store files file).1 := by
  unfold checkFile
  split
  · rename_i d store' checked
    intro _
    refine ⟨d, ?_, rfl⟩
    have holds := Holds.of_document (congrArg Prod.fst checked)
    rwa [checked] at holds
  · intro passed
    cases passed

/-- What the store holds it still holds after the check of any file. -/
theorem Vouched.checkFile {store : Store} {report : FileReport} (h : Vouched store report)
    (files : FileTree) (file : String) : Vouched (checkFile store files file).2 report := by
  intro passed
  obtain ⟨d, holds, same⟩ := h passed
  rw [store_checkFile]
  exact ⟨d, holds.load files file, same⟩

theorem Vouched.checkEach {store : Store} {report : FileReport} (h : Vouched store report)
    (files : FileTree) (names : List String) :
    Vouched (checkEach store files names).2 report := by
  induction names generalizing store with
  | nil => exact h
  | cons name rest ih => exact ih (h.checkFile files name)

theorem files_checkEach (store : Store) (files : FileTree) (names : List String) :
    (checkEach store files names).1.map (·.file) = names := by
  induction names generalizing store with
  | nil => rfl
  | cons name rest ih =>
    rw [checkEach, List.map_cons, file_checkFile, ih]

theorem vouched_checkEach (store : Store) (files : FileTree) (names : List String) :
    ∀ report ∈ (checkEach store files names).1, Vouched (checkEach store files names).2 report := by
  induction names generalizing store with
  | nil => nofun
  | cons name rest ih =>
    rw [checkEach, List.forall_mem_cons]
    exact ⟨(vouched_checkFile store files name).checkEach files rest, ih _⟩

/-- A check gives one report for each file that can be loaded, in order. For a
file in which nothing is wrong, whatever is done to the store and to the files
afterwards: no query of it is refused for its id, its file, the markup or a tag,
there are as many statement ids as were reported, and a query is not defined if
and only if it is none of these. -/
theorem passed_check_protects {store store' : Store} {files : FileTree}
    {reports : List FileReport} (checked : checkFiles store files = (.ok reports, store')) :
    store.available files = .ok (reports.map (·.file))
      ∧ (reports.map (·.file)).Pairwise (· < ·)
      ∧ ∀ report ∈ reports, report.isOk = true →
          ∀ steps, (∀ settings, .replace settings ∉ steps) →
            let world := (runAll ⟨files, store'⟩ steps).2
            ∃ ids, (world.store.statementIds world.files report.file).1 = .ok ids
              ∧ ids.length = report.statements
              ∧ ∀ x : String, isName x.toList = true → ∀ bag,
                  let query := report.file ++ "." ++ x
                  let sql := (world.store.render world.files query bag).1
                  (∀ e, sql = .error e → ¬ RuledOut e)
                    ∧ (sql = .error (.notDefined query) ↔ x ∉ ids) := by
  simp only [checkFiles] at checked
  split at checked
  · cases checked
  · rename_i names listed
    cases checked
    rw [files_checkEach]
    refine ⟨listed, pairwise_available listed, ?_⟩
    intro report member passed steps single world
    obtain ⟨d, found, same⟩ := vouched_checkEach store files names report member passed
    have holds : world.store.Holds report.file d := found.runAll single
    rw [same, isOk_ofDocument_iff] at passed
    refine ⟨d.ids, ?_, ?_, fun x name bag => ?_⟩
    · simp only [statementIds, holds.document world.files, Except.map]
    · rw [same]
      exact List.length_map _
    · intro query sql
      have rendered : sql = _ := holds.render name world.files bag
      rw [rendered]
      constructor
      · intro e fails
        exact not_ruledOut_of_renderIn passed.1 passed.2 (map_eq_error_iff.mp fails)
      · rw [map_eq_error_iff]
        exact @renderIn_eq_notDefined_iff d ⟨report.file, x⟩ bag

private def goodText : String := "<sql id='a'>1</sql>"

private def goodDocument : SqlMapper.Document := ⟨[⟨"sql", "a", [.text "1"]⟩]⟩

private def badText : String := "<sql id='a'><f/></sql>"

private def badDocument : SqlMapper.Document := ⟨[⟨"sql", "a", [.unsupported "f"]⟩]⟩

private def checkedFiles : FileTree :=
  ((FileTree.emptyAt []).write "/maps/Good.xml" (textFile goodText)).write "/maps/Bad.xml"
    (textFile badText)

private def checkedStore : Store := ⟨some "/maps", ∅⟩

private def storeAfterCheck : Store :=
  ⟨some "/maps", ((∅ : Dictionary String).insert "Bad.xml" badText).insert "Good.xml" goodText⟩

private theorem checkFiles_checkedStore :
    checkFiles checkedStore checkedFiles
      = (.ok [.ofDocument "Bad" badDocument, .ofDocument "Good" goodDocument],
          storeAfterCheck) := by
  have listed : checkedStore.available checkedFiles = .ok ["Bad", "Good"] := by rfl
  have loadBad : checkedStore.load checkedFiles "Bad"
      = (.ok badText, ⟨some "/maps", (∅ : Dictionary String).insert "Bad.xml" badText⟩) := by rfl
  have loadGood : Store.load ⟨some "/maps", (∅ : Dictionary String).insert "Bad.xml" badText⟩
      checkedFiles "Good" = (.ok goodText, storeAfterCheck) := by rfl
  have readBad : readMarkup badText = .ok [.element "sql" [("id", "a")] [.element "f" [] []]] := by
    rfl
  have readGood : readMarkup goodText = .ok [.element "sql" [("id", "a")] [.text "1"]] := by rfl
  have parseBad : Document.parse badText = .ok badDocument := by
    rw [Document.parse, readBad]
    rfl
  have parseGood : Document.parse goodText = .ok goodDocument := by
    rw [Document.parse, readGood]
    rfl
  simp only [checkFiles, listed, checkEach, checkFile, Store.document, loadBad, loadGood,
    parseLoaded, parseBad, parseGood]

private def laterSteps : List Step :=
  [.write "/maps/Good.xml" (textFile "<"), .configure "/other", .remove "/maps", .load "Bad"]

/-- A file that passed the check and was then written over and removed is still
rendered from. -/
theorem passed_check_protects_removed :
    let reports := [.ofDocument "Bad" badDocument, .ofDocument "Good" goodDocument]
    let world := (runAll ⟨checkedFiles, storeAfterCheck⟩ laterSteps).2
    checkFiles checkedStore checkedFiles = (.ok reports, storeAfterCheck)
      ∧ checkedStore.available checkedFiles = .ok (reports.map (·.file))
      ∧ (FileReport.ofDocument "Good" goodDocument).isOk = true
      ∧ (∀ settings, .replace settings ∉ laterSteps)
      ∧ ∃ ids, (world.store.statementIds world.files "Good").1 = .ok ids ∧ ids.length = 1
        ∧ ∀ bag, ((world.store.render world.files "Good.b" bag).1 = .error (.notDefined "Good.b")
            ↔ "b" ∉ ids) := by
  intro reports world
  have passed : (FileReport.ofDocument "Good" goodDocument).isOk = true := by rfl
  have single : ∀ settings, .replace settings ∉ laterSteps := by simp [laterSteps]
  obtain ⟨listed, _, later⟩ := passed_check_protects checkFiles_checkedStore
  obtain ⟨ids, answered, length, render⟩ := later (.ofDocument "Good" goodDocument)
    (List.mem_cons_of_mem _ List.mem_cons_self) passed laterSteps single
  refine ⟨checkFiles_checkedStore, listed, passed, single, ids, answered, length, fun bag => ?_⟩
  exact (render "b" (by decide) bag).2

end SqlMapper.CommandLine
