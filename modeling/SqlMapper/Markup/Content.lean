/-
Module: SqlMapper.Markup.Content
Purpose: Trees of elements and text.
Main exports: Content, attribute?
-/
import SqlMapper.Text.Words

namespace SqlMapper.Markup

open SqlMapper.Text

/-- A piece of text, or an element with its attributes and what it contains. -/
inductive Content where
  | text (characters : String)
  | element (name : String) (attributes : List (String × String)) (children : List Content)
deriving Repr, Inhabited

/-- The value of the first attribute with a name, in any case of its letters. -/
def attribute? (attributes : List (String × String)) (name : String) : Option String :=
  (attributes.find? fun a => sameLetters a.1 name).map (·.2)

theorem attribute?_eq_none_iff {attributes : List (String × String)} {name : String} :
    attribute? attributes name = none ↔ ∀ a ∈ attributes, sameLetters a.1 name = false := by
  simp [attribute?]

/-- The value found is that of an attribute with the name which has none with
the name before it. -/
theorem attribute?_eq_some_iff {attributes : List (String × String)} {name value : String} :
    attribute? attributes name = some value ↔
      ∃ before key after, attributes = before ++ (key, value) :: after
        ∧ sameLetters key name = true ∧ ∀ a ∈ before, sameLetters a.1 name = false := by
  rw [attribute?, Option.map_eq_some_iff]
  constructor
  · rintro ⟨⟨key, _⟩, found, rfl⟩
    obtain ⟨named, before, after, whole, earlier⟩ := List.find?_eq_some_iff_append.mp found
    exact ⟨before, key, after, whole, named, by simpa using earlier⟩
  · rintro ⟨before, key, after, whole, named, earlier⟩
    refine ⟨(key, value), ?_, rfl⟩
    exact List.find?_eq_some_iff_append.mpr ⟨named, before, after, whole, by simpa using earlier⟩

end SqlMapper.Markup
