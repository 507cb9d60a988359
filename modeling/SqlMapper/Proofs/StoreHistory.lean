/-
Module: SqlMapper.Proofs.StoreHistory
Purpose: What a store remembers of the files it has loaded, over any course of its use.
Main exports: BeforeReading, Step.base?, Step.answerFrom, Step.loads, Loaded, Remembers,
  Remembers.step, Remembers.runAll, root_runAll, store_remembers
-/
import SqlMapper.Proofs.ErrorCauses
import SqlMapper.Store.History

namespace SqlMapper.Store

open SqlMapper.Document SqlMapper.Files SqlMapper.Parameter SqlMapper.Query

/-!
A store changes in two ways only: its directory is set, and a text joins its
cache under the name of a file that was not there yet. So the texts that were
loaded in the course of its use can be read off the cache, and every step that
asks for one of these files is answered from the text that was loaded first,
whatever happened to the files and the directory since.
-/

/-- The errors that a step ends in before the file it asks for is read. -/
def BeforeReading : QueryError → Prop
  | .invalidId _ | .invalidFileName _ | .rootNotSet | .fileNotFound _ | .unreadable _ _ => True
  | .notDefined _ | .unsupportedTag _ | .inclusionCycle _ | .markup _ | .condition _ => False

/-! ### Loading -/

/-- A file that cannot be read leaves an error of that kind. -/
theorem readFile_error {root : Option String} {files : FileTree} {name : String} {e : QueryError}
    (h : readFile root files name = .error e) : BeforeReading e := by
  unfold readFile at h
  split at h
  · cases h
    trivial
  · simp only at h
    split at h
    · split at h
      · cases h
      · cases h
        trivial
    · cases h
      trivial

/-- Loading fails and leaves the store as it was, or gives the text that is in
the cache, or gives a text and puts it into the cache under a name that was not there. -/
theorem load_cases (store : Store) (files : FileTree) (base : String) :
    (∃ e, BeforeReading e ∧ store.load files base = (.error e, store))
      ∨ ∃ text, isName base.toList = true
        ∧ ((store.cache.find? (fileName base) = some text
            ∧ store.load files base = (.ok text, store))
          ∨ (store.cache.find? (fileName base) = none
            ∧ store.load files base
              = (.ok text, ⟨store.root, store.cache.insert (fileName base) text⟩))) := by
  unfold load
  by_cases name : isName base.toList = true
  · rw [if_pos name]
    cases cached : store.cache.find? (fileName base) with
    | some text => exact .inr ⟨text, name, .inl ⟨rfl, rfl⟩⟩
    | none =>
      cases read : readFile store.root files (fileName base) with
      | ok text => exact .inr ⟨text, name, .inr ⟨rfl, rfl⟩⟩
      | error e => exact .inl ⟨e, readFile_error read, rfl⟩
  · rw [if_neg name]
    exact .inl ⟨.invalidFileName base, trivial, rfl⟩

/-- Loading leaves the directory. -/
theorem root_load (store : Store) (files : FileTree) (base : String) :
    (store.load files base).2.root = store.root := by
  rcases load_cases store files base with ⟨e, _, h⟩ | ⟨text, _, ⟨_, h⟩ | ⟨_, h⟩⟩ <;> rw [h]

/-- A file that is in the cache is loaded from there. -/
theorem load_of_cached {store : Store} {files : FileTree} {base text : String}
    (name : isName base.toList = true) (cached : store.cache.find? (fileName base) = some text) :
    store.load files base = (.ok text, store) := by
  simp [load, name, cached]

/-- Different base names have different files. -/
theorem fileName_injective {base other : String} (h : fileName base = fileName other) :
    base = other :=
  (String.append_left_inj _).mp h

/-! ### Steps -/

namespace Step

/-- The base name of the file that a step asks for. -/
def base? : Step → Option String
  | .load base | .statementIds base | .document base => some base
  | .render query _ | .renderStatement query _ => (QueryId.parse query).toOption.map (·.file)
  | _ => none

/-- What rendering a query comes to, if the file it asks for holds a text. -/
def renderedFrom (text query : String) (bag : Bag) : Except QueryError RenderedQuery :=
  QueryId.parse query >>= fun id => parseLoaded (.ok text) >>= renderIn id bag

/-- What a step answers, if the file it asks for holds a text. -/
def answerFrom (text : String) : Step → Except QueryError Answer
  | .load _ => .ok (.text text)
  | .statementIds _ => (parseLoaded (.ok text)).map fun document => .names document.ids
  | .document _ => (parseLoaded (.ok text)).map .document
  | .render query bag => (renderedFrom text query bag).map fun rendered => .sql rendered.sql
  | .renderStatement query bag => (renderedFrom text query bag).map .rendered
  | _ => .ok .done

/-- The base name and the text of the file that a step loads. -/
def loads (world : World) (step : Step) : Option (String × String) :=
  step.base?.bind fun base =>
    (world.store.load world.files base).1.toOption.map fun text => (base, text)

/-- The directory that a step sets. -/
def configured? : Step → Option String
  | .configure path => some path
  | _ => none

/-- The file that a query asks for is the one its id names. -/
theorem exists_id_of_asks {query base : String}
    (asks : (QueryId.parse query).toOption.map (·.file) = some base) :
    ∃ id, QueryId.parse query = .ok id ∧ id.file = base := by
  cases parsed : QueryId.parse query with
  | error e => simp [parsed, Except.toOption] at asks
  | ok id =>
    refine ⟨id, rfl, ?_⟩
    simpa [parsed, Except.toOption] using asks

/-- A query that asks for no file has an id that cannot be read. -/
theorem exists_refusal_of_asks {query : String}
    (asks : (QueryId.parse query).toOption.map (·.file) = none) :
    ∃ e, QueryId.parse query = .error e := by
  cases parsed : QueryId.parse query with
  | error e => exact ⟨e, rfl⟩
  | ok id => simp [parsed, Except.toOption] at asks

/-- A step that asks for a file loads it, and is answered from its text. -/
theorem run_of_base? {world : World} {step : Step} {base : String}
    (asks : step.base? = some base) :
    step.run world
      = ((world.store.load world.files base).1 >>= fun text => step.answerFrom text,
        ⟨world.files, (world.store.load world.files base).2⟩) := by
  cases step with
  | load base =>
    cases asks
    simp only [run, World.answer]
    cases (world.store.load world.files base).1 <;> rfl
  | statementIds base =>
    cases asks
    simp only [run, World.answer, Store.statementIds, Store.document]
    cases (world.store.load world.files base).1 with
    | error e => rfl
    | ok text =>
      simp only [bind, Except.bind, answerFrom]
      cases parseLoaded (.ok text) <;> rfl
  | document base =>
    cases asks
    simp only [run, World.answer, Store.document]
    cases (world.store.load world.files base).1 <;> rfl
  | render query bag =>
    obtain ⟨id, parsed, rfl⟩ := exists_id_of_asks asks
    simp only [run, World.answer, Store.render, Store.renderStatement, parsed, Store.document]
    cases (world.store.load world.files id.file).1 with
    | error e => rfl
    | ok text =>
      simp only [bind, Except.bind, answerFrom, renderedFrom, parsed]
      cases parseLoaded (.ok text) with
      | error e => rfl
      | ok document => cases h : renderIn id bag document <;> simp [h, Except.map]
  | renderStatement query bag =>
    obtain ⟨id, parsed, rfl⟩ := exists_id_of_asks asks
    simp only [run, World.answer, Store.renderStatement, parsed, Store.document]
    cases (world.store.load world.files id.file).1 with
    | error e => rfl
    | ok text =>
      simp only [bind, Except.bind, answerFrom, renderedFrom, parsed]
  | _ => cases asks

/-- A step that asks for no file may set the directory, and leaves the cache. -/
theorem store_run_of_base?_eq_none {world : World} {step : Step} (asks : step.base? = none)
    (single : ∀ settings, step ≠ .replace settings) :
    (step.run world).2.store = ⟨step.configured?.or world.store.root, world.store.cache⟩ := by
  cases step with
  | replace settings => exact absurd rfl (single settings)
  | render query bag =>
    obtain ⟨e, parsed⟩ := exists_refusal_of_asks asks
    simp [run, World.answer, Store.render, Store.renderStatement, parsed, configured?]
  | renderStatement query bag =>
    obtain ⟨e, parsed⟩ := exists_refusal_of_asks asks
    simp [run, World.answer, Store.renderStatement, parsed, configured?]
  | load base => cases asks
  | statementIds base => cases asks
  | document base => cases asks
  | _ => rfl

/-- A step changes the directory only by setting it. -/
theorem root_run {world : World} {step : Step} (single : ∀ settings, step ≠ .replace settings) :
    (step.run world).2.store.root = step.configured?.or world.store.root := by
  cases asks : step.base? with
  | none => rw [store_run_of_base?_eq_none asks single]
  | some base =>
    have unset : step.configured? = none := by
      cases step <;> first | rfl | cases asks
    rw [run_of_base? asks, unset, root_load, Option.none_or]

end Step

/-! ### What a text comes to -/

theorem parseLoaded_error {text : String} {e : QueryError}
    (h : parseLoaded (.ok text) = .error e) : ¬ BeforeReading e := by
  simp only [parseLoaded] at h
  cases parsed : Document.parse text with
  | ok document =>
    rw [parsed] at h
    cases h
  | error error =>
    rw [parsed] at h
    cases h
    exact fun early => early

theorem renderIn_error {id : QueryId} {bag : Bag} {d : SqlMapper.Document} {e : QueryError}
    (h : renderIn id bag d = .error e) : ¬ BeforeReading e := by
  simp only [renderIn] at h
  cases found : d.statement? id.statement with
  | none =>
    rw [found] at h
    cases h
    exact fun early => early
  | some s =>
    rw [found] at h
    have cause := staticCause_of_renderStatement (mem_of_statement? found) (map_eq_error_iff.mp h)
    intro early
    cases e with
    | unsupportedTag _ | markup _ | notDefined _ | inclusionCycle _ | condition _ => exact early
    | rootNotSet | fileNotFound _ | invalidId _ | invalidFileName _ | unreadable _ _ => exact cause

/-- What a text comes to is never an error of reading a file. -/
theorem Step.answerFrom_error {step : Step} {base text : String} (asks : step.base? = some base)
    {e : QueryError} (h : step.answerFrom text = .error e) : ¬ BeforeReading e := by
  have rendered : ∀ query bag, (QueryId.parse query).toOption.map (·.file) = some base →
      renderedFrom text query bag = .error e → ¬ BeforeReading e := by
    intro query bag asks h
    obtain ⟨id, parsed, rfl⟩ := exists_id_of_asks asks
    simp only [renderedFrom, parsed, bind, Except.bind] at h
    cases read : parseLoaded (.ok text) with
    | error error =>
      rw [read] at h
      cases h
      exact parseLoaded_error read
    | ok document =>
      rw [read] at h
      exact renderIn_error h
  cases step with
  | load base => cases h
  | statementIds base => exact parseLoaded_error (map_eq_error_iff.mp h)
  | document base => exact parseLoaded_error (map_eq_error_iff.mp h)
  | render query bag => exact rendered query bag asks (map_eq_error_iff.mp h)
  | renderStatement query bag => exact rendered query bag asks (map_eq_error_iff.mp h)
  | _ => cases asks

/-- A step that fails before the file it asks for is read changes nothing. -/
theorem Step.run_of_beforeReading {world : World} {step : Step} {e : QueryError}
    (fails : (step.run world).1 = .error e) (early : BeforeReading e) :
    (step.run world).2 = world := by
  cases asks : step.base? with
  | none =>
    cases step with
    | available => rfl
    | render query bag =>
      obtain ⟨refusal, parsed⟩ := exists_refusal_of_asks asks
      simp [run, World.answer, Store.render, Store.renderStatement, parsed]
    | renderStatement query bag =>
      obtain ⟨refusal, parsed⟩ := exists_refusal_of_asks asks
      simp [run, World.answer, Store.renderStatement, parsed]
    | load base => cases asks
    | statementIds base => cases asks
    | document base => cases asks
    | _ => cases fails
  | some base =>
    rw [run_of_base? asks] at fails ⊢
    rcases load_cases world.store world.files base with
      ⟨_, _, loaded⟩ | ⟨text, _, ⟨_, loaded⟩ | ⟨_, loaded⟩⟩
    · rw [loaded]
    · rw [loaded]
    · rw [loaded] at fails
      exact absurd early (answerFrom_error asks fails)

/-! ### Courses of steps -/

/-- Somewhere in the course of steps, a text is loaded for a base name. -/
inductive Loaded : World → List Step → String → String → Prop
  | here {world : World} {step : Step} {rest : List Step} {base text : String}
      (loads : step.loads world = some (base, text)) : Loaded world (step :: rest) base text
  | later {world : World} {step : Step} {rest : List Step} {base text : String}
      (below : Loaded (step.run world).2 rest base text) : Loaded world (step :: rest) base text

/-- In a course on one store no step puts another in its place. -/
theorem single_cons {step : Step} {rest : List Step}
    (single : ∀ settings, .replace settings ∉ step :: rest) :
    (∀ settings, step ≠ .replace settings) ∧ ∀ settings, .replace settings ∉ rest := by
  constructor
  · intro settings same
    apply single settings
    rw [same]
    exact List.mem_cons_self
  · intro settings member
    apply single settings
    exact List.mem_cons_of_mem _ member

theorem loaded_cons_iff {world : World} {step : Step} {rest : List Step} {base text : String} :
    Loaded world (step :: rest) base text
      ↔ step.loads world = some (base, text) ∨ Loaded (step.run world).2 rest base text := by
  constructor
  · intro loaded
    cases loaded with
    | here loads => exact .inl loads
    | later below => exact .inr below
  · rintro (loads | below)
    · exact .here loads
    · exact .later below

/-- A store remembers texts if its cache holds each of them under the name of
its file, and nothing else. -/
structure Remembers (loaded : String → String → Prop) (store : Store) : Prop where
  named {base text : String} : loaded base text → isName base.toList = true
  found {base text : String} : loaded base text → store.cache.find? (fileName base) = some text
  origin {name text : String} : store.cache.find? name = some text →
    ∃ base, loaded base text ∧ name = fileName base

namespace Remembers

variable {loaded : String → String → Prop} {world : World}

/-- What is remembered is answered from, whatever the files hold. -/
theorem run_of_loaded (h : Remembers loaded world.store) {base text : String}
    (known : loaded base text) {step : Step} (asks : step.base? = some base) :
    (step.run world).1 = step.answerFrom text := by
  rw [Step.run_of_base? asks, load_of_cached (h.named known) (h.found known)]
  rfl

/-- A file that is in the cache was loaded with the text it has there. -/
theorem loaded_of_cached {store : Store} (h : Remembers loaded store) {base text : String}
    (cached : store.cache.find? (fileName base) = some text) : loaded base text := by
  obtain ⟨other, known, same⟩ := h.origin cached
  rwa [fileName_injective same]

/-- A text that joins the cache under a new name is remembered with the others. -/
theorem insert {store : Store} (h : Remembers loaded store) {base text : String}
    (name : isName base.toList = true) (uncached : store.cache.find? (fileName base) = none) :
    Remembers (fun other value => loaded other value ∨ (base, text) = (other, value))
      ⟨store.root, store.cache.insert (fileName base) text⟩ where
  named := by
    rintro other value (known | same)
    · exact h.named known
    · cases same
      exact name
  found := by
    rintro other value (known | same)
    · have apart : fileName other ≠ fileName base := by
        intro same
        have cached := h.found known
        rw [same, uncached] at cached
        cases cached
      rw [Dictionary.find?_insert, if_neg apart, h.found known]
    · cases same
      rw [Dictionary.find?_insert, if_pos rfl]
  origin := by
    intro entry value cached
    rw [Dictionary.find?_insert] at cached
    by_cases same : entry = fileName base
    · rw [if_pos same] at cached
      cases cached
      exact ⟨base, .inr rfl, same⟩
    · rw [if_neg same] at cached
      obtain ⟨other, known, rfl⟩ := h.origin cached
      exact ⟨other, .inl known, rfl⟩

/-- A step adds the text it loads to what is remembered. -/
theorem step (h : Remembers loaded world.store) {step : Step}
    (single : ∀ settings, step ≠ .replace settings) :
    Remembers (fun base text => loaded base text ∨ step.loads world = some (base, text))
      (step.run world).2.store := by
  cases asks : step.base? with
  | none =>
    have nothing : step.loads world = none := by rw [Step.loads, asks, Option.bind_none]
    rw [Step.store_run_of_base?_eq_none asks single]
    simpa only [nothing, reduceCtorEq, or_false] using ⟨h.named, h.found, h.origin⟩
  | some base =>
    rw [Step.run_of_base? asks]
    simp only [Step.loads, asks, Option.bind_some]
    rcases load_cases world.store world.files base with
      ⟨_, _, run⟩ | ⟨text, name, ⟨cached, run⟩ | ⟨uncached, run⟩⟩
    · simpa only [run, Except.toOption, Option.map_none, reduceCtorEq, or_false] using h
    · have known := h.loaded_of_cached cached
      have same : ∀ other value, (loaded other value ∨ (base, text) = (other, value))
          ↔ loaded other value := by
        intro other value
        apply or_iff_left_of_imp
        intro same
        cases same
        exact known
      simpa only [run, Except.toOption, Option.map_some, Option.some.injEq, same] using h
    · simpa only [run, Except.toOption, Option.map_some, Option.some.injEq]
        using h.insert name uncached

/-- A course of steps adds the texts it loads to what is remembered. -/
theorem runAll (h : Remembers loaded world.store) {steps : List Step}
    (single : ∀ settings, .replace settings ∉ steps) :
    Remembers (fun base text => loaded base text ∨ Loaded world steps base text)
      (runAll world steps).2.store := by
  induction steps generalizing world loaded with
  | nil =>
    have nothing : ∀ base text, ¬ Loaded world [] base text := nofun
    simp only [nothing, or_false]
    exact h
  | cons step rest ih =>
    obtain ⟨alone, others⟩ := single_cons single
    have all := ih (h.step alone) others
    have split : ∀ base text,
        (loaded base text ∨ Loaded world (step :: rest) base text)
          ↔ (loaded base text ∨ step.loads world = some (base, text))
            ∨ Loaded (step.run world).2 rest base text := by
      intro base text
      rw [loaded_cons_iff, or_assoc]
    simp only [split]
    exact all

/-- The store that starts empty remembers the texts that its steps load. -/
theorem of_empty (files : FileTree) {steps : List Step}
    (single : ∀ settings, .replace settings ∉ steps) :
    Remembers (Loaded ⟨files, .empty⟩ steps) (Store.runAll ⟨files, .empty⟩ steps).2.store := by
  have nothing : Remembers (fun _ _ => False) (World.mk files .empty).store :=
    ⟨nofun, nofun, nofun⟩
  simpa only [false_or] using nothing.runAll single

/-- The files in the cache are those that were loaded. -/
theorem mem_cached_iff {store : Store} (h : Remembers loaded store) {name : String} :
    name ∈ store.cached ↔ ∃ base text, loaded base text ∧ name = fileName base := by
  rw [cached, Dictionary.mem_names_iff]
  constructor
  · rintro ⟨text, stored⟩
    obtain ⟨base, known, same⟩ := h.origin stored
    exact ⟨base, text, known, same⟩
  · rintro ⟨base, text, known, rfl⟩
    exact ⟨text, h.found known⟩

/-- A base name is reported as read if a text was loaded for it. -/
theorem isCached_iff {store : Store} (h : Remembers loaded store) {base : String} :
    store.isCached base = true ↔ ∃ text, loaded base text := by
  rw [isCached, Dictionary.contains_iff]
  constructor
  · rintro ⟨text, cached⟩
    exact ⟨text, h.loaded_of_cached cached⟩
  · rintro ⟨text, known⟩
    exact ⟨text, h.found known⟩

end Remembers

/-- The directory at the end is the one set last, or the one at the start. -/
theorem root_runAll {world : World} {steps : List Step}
    (single : ∀ settings, .replace settings ∉ steps) :
    (runAll world steps).2.store.root
      = (steps.filterMap Step.configured?).getLast?.or world.store.root := by
  induction steps generalizing world with
  | nil => rfl
  | cons step rest ih =>
    obtain ⟨alone, others⟩ := single_cons single
    rw [runAll, ih others, Step.root_run alone]
    cases set : step.configured? with
    | none => rw [List.filterMap_cons_none set, Option.none_or]
    | some path =>
      rw [List.filterMap_cons_some set, List.getLast?_cons]
      cases (rest.filterMap Step.configured?).getLast? <;> rfl

/-- Over every course of steps on a store that starts empty: a file that was
loaded once is answered from that text in every later step; the cached files are
in order those that were loaded; the directory is the one set last; and a step
that fails before its file is read changes nothing. -/
theorem store_remembers (files : FileTree) (steps : List Step)
    (single : ∀ settings, .replace settings ∉ steps) :
    let start : World := ⟨files, .empty⟩
    let world := (runAll start steps).2
    (∀ base text, Loaded start steps base text →
        ∀ step : Step, step.base? = some base → (step.run world).1 = step.answerFrom text)
      ∧ world.store.cached.Pairwise (· < ·)
      ∧ (∀ name, name ∈ world.store.cached ↔
          ∃ base text, Loaded start steps base text ∧ isName base.toList = true
            ∧ name = fileName base)
      ∧ (∀ base, world.store.isCached base = true ↔ ∃ text, Loaded start steps base text)
      ∧ world.store.root = (steps.filterMap Step.configured?).getLast?
      ∧ ∀ (step : Step) (e : QueryError),
          (step.run world).1 = .error e → BeforeReading e → (step.run world).2 = world := by
  intro start world
  have remembers := Remembers.of_empty files single
  refine ⟨?answers, Dictionary.pairwise_names _, ?listed, ?flagged, ?root, ?failed⟩
  case answers =>
    intro base text known step asks
    exact remembers.run_of_loaded known asks
  case listed =>
    intro name
    rw [remembers.mem_cached_iff]
    constructor
    · rintro ⟨base, text, known, same⟩
      exact ⟨base, text, known, remembers.named known, same⟩
    · rintro ⟨base, text, known, _, same⟩
      exact ⟨base, text, known, same⟩
  case flagged =>
    intro base
    exact remembers.isCached_iff
  case root =>
    have last : world.store.root = _ := root_runAll single
    exact last.trans Option.or_none
  case failed =>
    intro step e fails early
    exact Step.run_of_beforeReading fails early

private def mapperText : String := "<mapper><select id='one'>SELECT 1</select></mapper>"

private def mapperFiles : FileTree :=
  (FileTree.emptyAt []).write "/maps/Test.xml" (textFile mapperText)

private def eventfulSteps : List Step :=
  [.configure "/maps", .load "Test", .write "/maps/Test.xml" (textFile "other"),
    .configure "/other", .remove "/maps"]

/-- A file that was loaded, written over and removed is answered from the text that was loaded. -/
theorem store_remembers_removed :
    let start : World := ⟨mapperFiles, .empty⟩
    let world := (runAll start eventfulSteps).2
    (∀ settings, .replace settings ∉ eventfulSteps)
      ∧ Loaded start eventfulSteps "Test" mapperText
      ∧ (Step.run world (.load "Test")).1 = .ok (.text mapperText)
      ∧ world.store.root = some "/other" := by
  intro start world
  have single : ∀ settings, .replace settings ∉ eventfulSteps := by
    simp [eventfulSteps]
  have known : Loaded start eventfulSteps "Test" mapperText := .later (.here rfl)
  obtain ⟨answers, _, _, _, root, _⟩ := store_remembers mapperFiles eventfulSteps single
  refine ⟨single, known, answers _ _ known (.load "Test") rfl, root⟩

end SqlMapper.Store
