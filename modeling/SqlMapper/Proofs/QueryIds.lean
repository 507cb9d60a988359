/-
Module: SqlMapper.Proofs.QueryIds
Purpose: Which texts are ids of queries, and which statement an id names.
Main exports: FirstOutermost, statement?_ofContents_eq_some_iff, IsPlainName, IsWritten,
  QueryId.parse_eq_ok_iff, renderStatement_of_load, query_ids_exact
-/
import SqlMapper.Proofs.PassedCheck
import SqlMapper.Proofs.StatementPlaces

namespace SqlMapper.Document

open SqlMapper.Markup

/-!
The id of a query is the name of a file and the id of a statement with a dot between
them. Neither part holds a dot, so that a text is written for one pair at most, and the
ending of a file name can be taken off again. What an id names is found in the document
of the file: of the elements that have the id and stand inside no other element with an
id, the first.
-/

/-! ### The first element with an id -/

/-- At a place stands the first of the outermost elements that have an id. -/
structure FirstOutermost (contents : List Content) (id : String) (place : List Nat)
    (s : Statement) : Prop where
  outermost : IsOutermost contents place s
  named : s.id = id
  first : ∀ earlier t, earlier < place → IsOutermost contents earlier t → t.id ≠ id

section

variable {contents : List Content} {id : String} {place : List Nat} {s : Statement}

theorem mem_placedAll_zero_iff :
    (place, s) ∈ placedAll 0 contents ↔ IsOutermost contents place s := by
  simp only [mem_placedAll 0, Nat.zero_add]
  constructor
  · rintro ⟨j, below, rfl, stands⟩
    exact stands
  · intro stands
    cases place with
    | nil => exact absurd stands not_isOutermost_nil
    | cons j below => exact ⟨j, below, rfl, stands⟩

/-- A statement of a document stands at the first place of its id. -/
theorem mem_statements_ofContents_iff :
    s ∈ (ofContents contents).statements ↔ ∃ place, FirstOutermost contents s.id place s := by
  rw [ofContents, ← map_snd_placedAll 0, firstOfEachId_map_snd (pairwise_placedAll 0 contents)]
  simp only [List.mem_map, List.mem_filter, decide_eq_true_eq, Prod.exists]
  constructor
  · rintro ⟨place, _, ⟨member, first⟩, rfl⟩
    refine ⟨place, mem_placedAll_zero_iff.mp member, rfl, ?_⟩
    intro earlier t lower stands
    exact first (earlier, t) (mem_placedAll_zero_iff.mpr stands) lower
  · rintro ⟨place, stands, -, first⟩
    refine ⟨place, s, ⟨mem_placedAll_zero_iff.mpr stands, ?_⟩, rfl⟩
    rintro ⟨earlier, t⟩ member lower
    exact first earlier t lower (mem_placedAll_zero_iff.mp member)

/-- What is found for an id is the first outermost element that has it. -/
theorem statement?_ofContents_eq_some_iff :
    (ofContents contents).statement? id = some s ↔ ∃ place, FirstOutermost contents id place s := by
  have distinct : (ofContents contents).ids.Nodup := nodup_ids_firstOfEachId _
  rw [statement?_eq_some_iff distinct, mem_statements_ofContents_iff]
  constructor
  · rintro ⟨found, rfl⟩
    exact found
  · rintro ⟨place, stands⟩
    obtain rfl := stands.named
    exact ⟨⟨place, stands⟩, rfl⟩

/-- Nothing is found for an id that no outermost element has. -/
theorem statement?_ofContents_of_forall_ne
    (absent : ∀ place s, IsOutermost contents place s → s.id ≠ id) :
    (ofContents contents).statement? id = none := by
  cases found : (ofContents contents).statement? id with
  | none => rfl
  | some s =>
    obtain ⟨place, stands⟩ := statement?_ofContents_eq_some_iff.mp found
    exact absurd stands.named (absent place s stands.outermost)

end

end SqlMapper.Document

namespace SqlMapper.Query

open SqlMapper.Text

/-! ### The notation -/

/-- An ASCII letter or an ASCII digit. -/
def IsLetterOrDigit (c : Char) : Prop :=
  ('A' ≤ c ∧ c ≤ 'Z') ∨ ('a' ≤ c ∧ c ≤ 'z') ∨ ('0' ≤ c ∧ c ≤ '9')

/-- One or more ASCII letters and digits. -/
def IsPlainName (name : String) : Prop := name ≠ "" ∧ ∀ c ∈ name.toList, IsLetterOrDigit c

/-- A text is written for an id: the name of a file, a dot, the id of a statement, and
nothing else. -/
structure IsWritten (query : String) (id : QueryId) : Prop where
  file : IsPlainName id.file
  statement : IsPlainName id.statement
  text : query = id.file ++ "." ++ id.statement

section

variable {query : String} {id : QueryId}

theorem isAlphanum_iff {c : Char} : c.isAlphanum = true ↔ IsLetterOrDigit c := by
  have upper : c.isUpper = true ↔ 'A' ≤ c ∧ c ≤ 'Z' := decide_eq_true_iff
  have lower : c.isLower = true ↔ 'a' ≤ c ∧ c ≤ 'z' :=
    Bool.and_eq_true_iff.trans (and_congr decide_eq_true_iff decide_eq_true_iff)
  have digit : c.isDigit = true ↔ '0' ≤ c ∧ c ≤ '9' :=
    Bool.and_eq_true_iff.trans (and_congr decide_eq_true_iff decide_eq_true_iff)
  have letter : c.isAlpha = true ↔ c.isUpper = true ∨ c.isLower = true := Bool.or_eq_true_iff
  have either : c.isAlphanum = true ↔ c.isAlpha = true ∨ c.isDigit = true := Bool.or_eq_true_iff
  rw [either, letter, upper, lower, digit, or_assoc, IsLetterOrDigit]

theorem isName_iff {name : String} : isName name.toList = true ↔ IsPlainName name := by
  rw [isName, Bool.and_eq_true, List.all_eq_true, IsPlainName]
  apply and_congr
  · rw [Bool.not_eq_true', List.isEmpty_eq_false_iff, Ne, String.toList_eq_nil_iff]
  · exact forall₂_congr fun c _ => isAlphanum_iff

/-- Exactly the texts that are written for an id are read as it. -/
theorem QueryId.parse_eq_ok_iff : QueryId.parse query = .ok id ↔ IsWritten query id := by
  constructor
  · intro parsed
    rw [QueryId.parse] at parsed
    split at parsed
    · rename_i file statement cut
      split at parsed
      · rename_i names
        rw [Bool.and_eq_true] at names
        cases parsed
        refine ⟨isName_iff.mp ?_, isName_iff.mp ?_, ?_⟩
        · rw [String.toList_ofList]
          exact names.1
        · rw [String.toList_ofList]
          exact names.2
        · rw [← String.toList_inj]
          simpa using (cutAt?_eq_some cut).1
      · cases parsed
    · cases parsed
  · intro written
    rw [written.text]
    exact QueryId.parse_text (isName_iff.mpr written.file) (isName_iff.mpr written.statement)

theorem IsWritten.text_eq (written : IsWritten query id) : id.text = query := written.text.symm

/-- Every other text is refused as it is. -/
theorem QueryId.parse_of_not_isWritten (refused : ∀ id, ¬ IsWritten query id) :
    QueryId.parse query = .error (.invalidId query) := by
  cases parsed : QueryId.parse query with
  | ok id => exact absurd (QueryId.parse_eq_ok_iff.mp parsed) (refused id)
  | error e =>
    rw [QueryId.parse] at parsed
    split at parsed
    · split at parsed
      · cases parsed
      · cases parsed
        rfl
    · cases parsed
      rfl

/-- Ids that name one file and one statement are equal. -/
theorem QueryId.eq_of_fileName_eq {other : QueryId} (file : id.fileName = other.fileName)
    (statement : id.statement = other.statement) : id = other := by
  cases id
  cases other
  obtain rfl := Store.fileName_injective file
  obtain rfl := statement
  rfl

end

end SqlMapper.Query

namespace SqlMapper.Store

open SqlMapper.Document SqlMapper.Files SqlMapper.Markup SqlMapper.Parameter SqlMapper.Query

/-! ### Rendering by an id -/

/-- Loading a file leaves what is cached of the others. -/
theorem find?_load_of_ne {store : Store} {files : FileTree} {base name : String}
    (other : name ≠ fileName base) :
    (store.load files base).2.cache.find? name = store.cache.find? name := by
  rcases load_cases store files base with ⟨e, _, h⟩ | ⟨text, _, ⟨_, h⟩ | ⟨_, h⟩⟩
  · rw [h]
  · rw [h]
  · rw [h, Dictionary.find?_insert, if_neg other]

section

variable {query : String} {id : QueryId} {store : Store} {files : FileTree} {bag : Bag}

theorem renderStatement_of_isWritten (written : IsWritten query id) :
    store.renderStatement files query bag
      = ((store.document files id.file).1 >>= renderIn id bag,
        (store.load files id.file).2) := by
  rw [Store.renderStatement, QueryId.parse_eq_ok_iff.mpr written]
  rfl

theorem render_eq (store : Store) (files : FileTree) (query : String) (bag : Bag) :
    store.render files query bag
      = ((store.renderStatement files query bag).1.map RenderedQuery.sql,
        (store.renderStatement files query bag).2) := rfl

theorem renderStatement_of_not_isWritten (refused : ∀ id, ¬ IsWritten query id) :
    store.renderStatement files query bag = (.error (.invalidId query), store) := by
  rw [Store.renderStatement, QueryId.parse_of_not_isWritten refused]

/-- The text of a file decides what its queries come to. -/
theorem renderStatement_of_load {text : String} {contents : List Content}
    (written : IsWritten query id) (loaded : (store.load files id.file).1 = .ok text)
    (read : readMarkup text = .ok contents) :
    (store.renderStatement files query bag).1 = renderIn id bag (ofContents contents) := by
  have parsed : Document.parse text = .ok (ofContents contents) := by
    rw [Document.parse, read]
    rfl
  rw [renderStatement_of_isWritten written, Store.document]
  simp only [loaded, parseLoaded, parsed]
  rfl

/-- An id stands for the first outermost element that has it. -/
theorem renderIn_of_firstOutermost {contents : List Content} {place : List Nat} {s : Statement}
    (first : FirstOutermost contents id.statement place s) :
    renderIn id bag (ofContents contents)
      = (Query.renderStatement (ofContents contents) id.file bag s).map
        fun sql => ⟨id, s.kind, sql⟩ := by
  rw [renderIn, statement?_ofContents_eq_some_iff.mpr ⟨place, first⟩]

theorem renderIn_of_forall_ne {contents : List Content}
    (absent : ∀ place s, IsOutermost contents place s → s.id ≠ id.statement) :
    renderIn id bag (ofContents contents) = .error (.notDefined id.text) := by
  rw [renderIn, statement?_ofContents_of_forall_ne absent]

theorem map_sql_map (x : Except QueryError String) (kind : String) :
    (x.map fun sql => (⟨id, kind, sql⟩ : RenderedQuery)).map RenderedQuery.sql = x := by
  cases x <;> rfl

end

/-- A text is read as the id of a query exactly if it is one or more ASCII letters and digits,
a dot, one or more ASCII letters and digits and nothing else; the id is written as the text
then, and every pair of such names is read back from its written form. Any other text is
refused as it is, and rendering it leaves the store as it was. Ids that name one cached file
and one statement are equal. Rendering by an id loads the file that it names and nothing else;
and where the file is read, the SQL, its kind and its id are those of the first element that
has the id and stands inside no other element with an id, or the query is not defined. -/
theorem query_ids_exact (query : String) :
    (∀ id, QueryId.parse query = .ok id ↔ IsWritten query id)
      ∧ (∀ id, QueryId.parse query = .ok id → id.text = query)
      ∧ (∀ file statement, IsPlainName file → IsPlainName statement →
        QueryId.parse (QueryId.text ⟨file, statement⟩) = .ok ⟨file, statement⟩)
      ∧ ((∀ id, ¬ IsWritten query id) →
        QueryId.parse query = .error (.invalidId query)
          ∧ ∀ store files bag,
            Store.renderStatement store files query bag = (.error (.invalidId query), store)
              ∧ Store.render store files query bag = (.error (.invalidId query), store))
      ∧ (∀ other id id', QueryId.parse query = .ok id → QueryId.parse other = .ok id' →
        id.fileName = id'.fileName → id.statement = id'.statement → query = other ∧ id = id')
      ∧ ∀ id store files bag, QueryId.parse query = .ok id →
        (Store.renderStatement store files query bag).2 = (store.load files id.file).2
          ∧ (Store.render store files query bag).2 = (store.load files id.file).2
          ∧ (∀ name, name ≠ id.fileName →
            (store.load files id.file).2.cache.find? name = store.cache.find? name)
          ∧ ∀ text contents, (store.load files id.file).1 = .ok text →
            readMarkup text = .ok contents →
            (∀ place s, FirstOutermost contents id.statement place s →
              (Store.render store files query bag).1
                  = Query.renderStatement (ofContents contents) id.file bag s
                ∧ (Store.renderStatement store files query bag).1
                  = (Store.render store files query bag).1.map fun sql => ⟨id, s.kind, sql⟩)
            ∧ ((∀ place s, IsOutermost contents place s → s.id ≠ id.statement) →
              (Store.renderStatement store files query bag).1 = .error (.notDefined query)
                ∧ (Store.render store files query bag).1 = .error (.notDefined query)) := by
  refine ⟨fun id => QueryId.parse_eq_ok_iff, ?_, ?_, ?_, ?_, ?_⟩
  · intro id parsed
    exact (QueryId.parse_eq_ok_iff.mp parsed).text_eq
  · intro file statement hfile hstatement
    exact QueryId.parse_eq_ok_iff.mpr ⟨hfile, hstatement, rfl⟩
  · intro refused
    refine ⟨QueryId.parse_of_not_isWritten refused, fun store files bag => ?_⟩
    have rendered : store.renderStatement files query bag = (.error (.invalidId query), store) :=
      renderStatement_of_not_isWritten refused
    refine ⟨rendered, ?_⟩
    rw [render_eq, rendered]
    rfl
  · intro other id id' parsed parsed' file statement
    obtain rfl := QueryId.eq_of_fileName_eq file statement
    have text := (QueryId.parse_eq_ok_iff.mp parsed).text_eq
    have text' := (QueryId.parse_eq_ok_iff.mp parsed').text_eq
    exact ⟨text.symm.trans text', rfl⟩
  · intro id store files bag parsed
    have written := QueryId.parse_eq_ok_iff.mp parsed
    have after : (store.renderStatement files query bag).2 = (store.load files id.file).2 := by
      rw [renderStatement_of_isWritten written]
    refine ⟨after, after, fun name other => find?_load_of_ne other, ?_⟩
    intro text contents loaded read
    have rendered : (store.renderStatement files query bag).1
        = renderIn id bag (ofContents contents) := renderStatement_of_load written loaded read
    simp only [render_eq, rendered]
    constructor
    · intro place s first
      rw [renderIn_of_firstOutermost first, map_sql_map]
      exact ⟨rfl, rfl⟩
    · intro absent
      rw [renderIn_of_forall_ne absent, written.text_eq]
      exact ⟨rfl, rfl⟩

/-- A text in which an element with an id stands inside another, before the one of the
same id that does not. -/
private def nestedIdsText : String :=
  "<select id='a'><update id='b'>1</update></select><sql id='b'>2</sql>"

private def nestedIdsContents : List Content :=
  [.element "select" [("id", "a")] [.element "update" [("id", "b")] [.text "1"]],
    .element "sql" [("id", "b")] [.text "2"]]

private def nestedIdsFiles : FileTree :=
  (FileTree.emptyAt []).write "/maps/T.xml" (textFile nestedIdsText)

private def nestedIdsStore : Store := ⟨some "/maps", ∅⟩

private theorem load_nestedIds :
    (nestedIdsStore.load nestedIdsFiles "T").1 = .ok nestedIdsText := by rfl

private theorem readMarkup_nestedIds : readMarkup nestedIdsText = .ok nestedIdsContents := by rfl

private theorem parse_nestedIds : QueryId.parse "T.b" = .ok ⟨"T", "b"⟩ := by rfl

private theorem renderStatement_nestedIds :
    Query.renderStatement (ofContents nestedIdsContents) "T" Bag.none ⟨"sql", "b", [.text "2"]⟩
      = .ok "2" := by
  rw [Query.renderStatement, renderBody]
  rfl

/-- An id whose statement comes behind another element of the id, and the same id with a
line feed at its end. -/
theorem query_ids_exact_nested :
    IsWritten "T.b" ⟨"T", "b"⟩
      ∧ FirstOutermost nestedIdsContents "b" [1] ⟨"sql", "b", [.text "2"]⟩
      ∧ (nestedIdsStore.renderStatement nestedIdsFiles "T.b" Bag.none).1
        = .ok ⟨⟨"T", "b"⟩, "sql", "2"⟩
      ∧ nestedIdsStore.render nestedIdsFiles "T.b\n" Bag.none
        = (.error (.invalidId "T.b\n"), nestedIdsStore) := by
  obtain ⟨written, -, -, -, -, rendering⟩ := query_ids_exact "T.b"
  obtain ⟨lineFeed, -, -, refusal, -⟩ := query_ids_exact "T.b\n"
  have places : placedAll 0 nestedIdsContents
      = [([0], ⟨"select", "a", [.unsupported "update"]⟩), ([1], ⟨"sql", "b", [.text "2"]⟩)] := by
    rfl
  have first : FirstOutermost nestedIdsContents "b" [1] ⟨"sql", "b", [.text "2"]⟩ := by
    refine ⟨mem_placedAll_zero_iff.mp (by simp [places]), rfl, ?_⟩
    intro earlier t lower stands
    rw [← mem_placedAll_zero_iff, places] at stands
    rcases List.mem_cons.mp stands with here | here
    · cases here
      decide
    · cases List.mem_singleton.mp here
      exact absurd lower (List.lt_irrefl _)
  obtain ⟨-, -, -, answers⟩ :=
    rendering ⟨"T", "b"⟩ nestedIdsStore nestedIdsFiles Bag.none parse_nestedIds
  obtain ⟨rendered, declared⟩ :=
    (answers nestedIdsText nestedIdsContents load_nestedIds readMarkup_nestedIds).1 [1] _ first
  have refused : ∀ id, ¬ IsWritten "T.b\n" id := by
    intro id other
    have accepted := (lineFeed id).mpr other
    cases accepted
  refine ⟨(written _).mp parse_nestedIds, first, ?_, ((refusal refused).2 _ _ _).2⟩
  rw [declared, rendered, renderStatement_nestedIds]
  rfl

/-- The first element that has an id need not be the one that the id names: here it stands
inside another element with an id. -/
theorem first_element_not_named :
    QueryId.parse "T.b" = .ok ⟨"T", "b"⟩
      ∧ (nestedIdsStore.load nestedIdsFiles "T").1 = .ok nestedIdsText
      ∧ readMarkup nestedIdsText = .ok nestedIdsContents
      ∧ contentAt? nestedIdsContents [0, 0] = some (.element "update" [("id", "b")] [.text "1"])
      ∧ (∀ earlier tag attributes children, earlier < [0, 0] →
        contentAt? nestedIdsContents earlier = some (.element tag attributes children) →
          attribute? attributes "id" ≠ some "b")
      ∧ (nestedIdsStore.renderStatement nestedIdsFiles "T.b" Bag.none).1
        = .ok ⟨⟨"T", "b"⟩, "sql", "2"⟩ := by
  refine ⟨parse_nestedIds, load_nestedIds, readMarkup_nestedIds, rfl, ?_, ?_⟩
  · intro earlier tag attributes children lower stands
    match earlier, lower, stands with
    | [0], _, stands =>
      cases stands
      decide
    | 0 :: i :: below, lower, _ =>
      rcases List.cons_lt_cons_iff.mp lower with less | ⟨_, lower⟩
      · exact absurd less (Nat.lt_irrefl 0)
      · rcases List.cons_lt_cons_iff.mp lower with less | ⟨_, lower⟩
        · exact absurd less (Nat.not_lt_zero i)
        · exact absurd lower (List.not_lt_nil below)
    | (i + 1) :: below, lower, _ =>
      rcases List.cons_lt_cons_iff.mp lower with less | ⟨same, _⟩
      · exact absurd less (Nat.not_lt_zero _)
      · cases same
  · have found : (ofContents nestedIdsContents).statement? "b"
        = some ⟨"sql", "b", [.text "2"]⟩ := by rfl
    rw [renderStatement_of_load (QueryId.parse_eq_ok_iff.mp parse_nestedIds) load_nestedIds
      readMarkup_nestedIds]
    simp only [renderIn, found, renderStatement_nestedIds]
    rfl

end SqlMapper.Store
