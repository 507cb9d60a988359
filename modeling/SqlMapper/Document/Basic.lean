/-
Module: SqlMapper.Document.Basic
Purpose: Mapper documents: statements by id, and the scans for what cannot be rendered.
Main exports: Statement, Document, Document.statement?, Document.ids, Document.unsupportedTags,
  Document.invalidDirectives
-/
import SqlMapper.Document.Node

namespace SqlMapper.Document

open SqlMapper.Markup

/-- A statement: the name of the element that declares it, its id and its body. -/
structure Statement where
  kind : String
  id : String
  body : List Node
deriving Repr, Inhabited

end SqlMapper.Document

namespace SqlMapper

open SqlMapper.Document SqlMapper.Markup

/-- The statements of a mapper text, in the order in which they are written. -/
structure Document where
  statements : List Statement
deriving Repr, Inhabited

/-- An element that is no directive, and the statement it stands in. -/
structure UnsupportedTag where
  statement : String
  tag : String
deriving Repr, Inhabited, DecidableEq

/-- A directive that could not be built, and the statement it stands in. -/
structure InvalidDirective where
  statement : String
  tag : String
  error : MarkupError
deriving Repr, Inhabited, DecidableEq

namespace Document

/-- The first statement with an id. -/
def statement? (d : Document) (id : String) : Option Statement :=
  d.statements.find? (·.id == id)

/-- The ids of the statements. -/
def ids (d : Document) : List String := d.statements.map (·.id)

/-- The number of statements. -/
def size (d : Document) : Nat := d.statements.length

/-- What a choice of nodes gives for the nodes of all statements. -/
def collect {α : Type} (d : Document) (pick : Statement → Node → Option α) : List α :=
  d.statements.flatMap fun s => (walkAll s.body).filterMap (pick s)

/-- The elements that are no directives, in all branches of all statements. -/
def unsupportedTags (d : Document) : List UnsupportedTag :=
  d.collect fun s node =>
    match node with
    | .unsupported tag => some ⟨s.id, tag⟩
    | _ => none

/-- The directives that could not be built, in all branches of all statements. -/
def invalidDirectives (d : Document) : List InvalidDirective :=
  d.collect fun s node =>
    match node with
    | .invalid tag error => some ⟨s.id, tag, error⟩
    | _ => none

section

variable {d : SqlMapper.Document}

theorem mem_collect_iff {α : Type} {pick : Statement → Node → Option α} {found : α} :
    found ∈ d.collect pick
      ↔ ∃ s ∈ d.statements, ∃ node ∈ walkAll s.body, pick s node = some found := by
  simp [collect, List.mem_flatMap, List.mem_filterMap]

/-- The first scan lists exactly the elements that are no directives. -/
theorem mem_unsupportedTags_iff {id tag : String} :
    ⟨id, tag⟩ ∈ d.unsupportedTags
      ↔ ∃ s ∈ d.statements, s.id = id ∧ .unsupported tag ∈ walkAll s.body := by
  rw [unsupportedTags, mem_collect_iff]
  constructor
  · rintro ⟨s, member, node, walked, picked⟩
    split at picked
    · cases picked
      exact ⟨s, member, rfl, walked⟩
    · cases picked
  · rintro ⟨s, member, rfl, walked⟩
    exact ⟨s, member, _, walked, rfl⟩

/-- The second scan lists exactly the directives that could not be built. -/
theorem mem_invalidDirectives_iff {id tag : String} {error : MarkupError} :
    ⟨id, tag, error⟩ ∈ d.invalidDirectives
      ↔ ∃ s ∈ d.statements, s.id = id ∧ .invalid tag error ∈ walkAll s.body := by
  rw [invalidDirectives, mem_collect_iff]
  constructor
  · rintro ⟨s, member, node, walked, picked⟩
    split at picked
    · cases picked
      exact ⟨s, member, rfl, walked⟩
    · cases picked
  · rintro ⟨s, member, rfl, walked⟩
    exact ⟨s, member, _, walked, rfl⟩

end

end Document

end SqlMapper
