/-
Module: SqlMapper.Document.NormalForm
Purpose: The bodies that parsing gives, and the documents that a mapper text can be written for.
Main exports: isElementName, isPlainName, Node.isNormal, isNormalBody, Writable
-/
import SqlMapper.Document.Basic

namespace SqlMapper.Document

open SqlMapper.Markup SqlMapper.Text

/-!
Two texts side by side cannot be told from one, an empty text cannot be told
from none, and an element named after a directive is built as that directive.
A body without these is in normal form. Normal form says nothing about names; a
document can be written when also its element names are plain, no directive in
it is invalid, and no two statements claim one id.
-/

/-- A name made of ASCII letters and digits, a letter first. -/
def isElementName (name : String) : Bool :=
  match name.toList with
  | [] => false
  | c :: rest => c.isAlpha && rest.all Char.isAlphanum

theorem isElementName_iff {name : String} :
    isElementName name = true ↔
      ∃ c rest, name.toList = c :: rest ∧ c.isAlpha = true ∧ ∀ d ∈ rest, d.isAlphanum = true := by
  unfold isElementName
  cases name.toList with
  | nil => simp
  | cons c rest =>
    rw [Bool.and_eq_true, List.all_eq_true]
    exact ⟨fun h => ⟨c, rest, rfl, h⟩, by rintro ⟨_, _, ⟨⟩, h⟩; exact h⟩

/-- A character without a meaning in a tag: of ASCII only letters and digits. -/
def isPlain (c : Char) : Bool := c.isAlphanum || 128 ≤ c.toNat

/-- A name that has of ASCII only letters and digits, and at least one character. -/
def isPlainName (name : String) : Bool := !name.toList.isEmpty && name.toList.all isPlain

theorem isPlainName_of_isElementName {name : String} (h : isElementName name = true) :
    isPlainName name = true := by
  obtain ⟨c, rest, hname, first, others⟩ := isElementName_iff.mp h
  have letters : rest.all isPlain = true := by
    rw [List.all_eq_true]
    intro d hd
    simp [isPlain, others d hd]
  simp [isPlainName, hname, isPlain, Char.isAlphanum, first, letters]

/-- The directives that have a meaning anywhere in a body. -/
def Directive.freestanding : List Directive :=
  [ifTest, choose, isNotNull, inclusion, whereBlock]

/-- Whether an element name belongs, in any case of its letters, to a
directive that has a meaning anywhere in a body. -/
def namesDirective (tag : String) : Bool :=
  Directive.freestanding.any fun d => sameLetters d.name tag

/-- Whether a fault is one of a directive rather than of the markup. -/
def isDirectiveFault : MarkupError → Bool
  | .missingAttribute .. | .invalidChoose _ => true
  | _ => false

/-- Whether nodes start with a text. -/
def startsWithText : List Node → Bool
  | .text _ :: _ => true
  | _ => false

mutual

/-- Whether a node and all it holds are in normal form. -/
def Node.isNormal : Node → Bool
  | .text characters => characters != ""
  | .ifTest _ children | .isNotNull _ children | .whereBlock children => isNormalBody children
  | .choose whens otherwise =>
      !whens.isEmpty && areNormalBranches whens && isNormalBody otherwise
  | .inclusion _ => true
  | .unsupported tag => !namesDirective tag
  | .invalid _ error => isDirectiveFault error

/-- Whether nodes and all they hold are in normal form. -/
def isNormalBody : List Node → Bool
  | [] => true
  | node :: rest =>
      node.isNormal && isNormalBody rest && !(startsWithText [node] && startsWithText rest)

/-- Whether the branches of a choice are in normal form. -/
def areNormalBranches : List (Branch Node) → Bool
  | [] => true
  | ⟨_, children⟩ :: rest => isNormalBody children && areNormalBranches rest

end

/-- A document that can be written as a mapper text. -/
structure Writable (d : SqlMapper.Document) : Prop where
  distinct : d.ids.Nodup
  kinds : ∀ s ∈ d.statements, isElementName s.kind = true
  tags : ∀ found ∈ d.unsupportedTags, isElementName found.tag = true
  valid : d.invalidDirectives = []
  normal : ∀ s ∈ d.statements, isNormalBody s.body = true

instance (d : SqlMapper.Document) : Decidable (Writable d) :=
  decidable_of_iff
    (d.ids.Nodup ∧ (∀ s ∈ d.statements, isElementName s.kind = true)
      ∧ (∀ found ∈ d.unsupportedTags, isElementName found.tag = true)
      ∧ d.invalidDirectives = [] ∧ ∀ s ∈ d.statements, isNormalBody s.body = true)
    ⟨fun ⟨distinct, kinds, tags, valid, normal⟩ => ⟨distinct, kinds, tags, valid, normal⟩,
      fun h => ⟨h.distinct, h.kinds, h.tags, h.valid, h.normal⟩⟩

end SqlMapper.Document
