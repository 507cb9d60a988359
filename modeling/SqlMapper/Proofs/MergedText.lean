/-
Module: SqlMapper.Proofs.MergedText
Purpose: Whatever interrupts a text, it is read as one text.
Main exports: isMerged, areMerged, areMerged_iff, Reader.Merged, Reader.Merged.perform,
  Reader.Merged.feed, areMerged_readMarkup
-/
import Mathlib.Data.List.Chain
import SqlMapper.Proofs.Effect

namespace SqlMapper.Markup

/-!
A text ends only where an element starts or ends, and an empty text is not
kept. So the trees that the reader has put together never hold two texts side by
side, while the text that is still going on stands behind an element or at the
start of one.
-/

/-- Whether a tree is a text. -/
def Content.isText : Content → Bool
  | .text _ => true
  | .element .. => false

/-- Whether trees start with a text. -/
def headIsText (contents : List Content) : Bool := contents.head?.any Content.isText

mutual

/-- Whether no text in a tree is empty or stands beside another. -/
def isMerged : Content → Bool
  | .text characters => characters != ""
  | .element _ _ children => areMerged children

/-- Whether no text in trees is empty or stands beside another. -/
def areMerged : List Content → Bool
  | [] => true
  | content :: rest => isMerged content && areMerged rest && !(content.isText && headIsText rest)

end

/-- Trees that can stand side by side: not both are texts. -/
def Apart (a b : Content) : Prop := (a.isText && b.isText) = false

theorem Apart.symm {a b : Content} (h : Apart a b) : Apart b a := by
  rwa [Apart, Bool.and_comm] at h

/-- Trees are merged if each of them is and neighbours can stand side by side. -/
theorem areMerged_iff {contents : List Content} :
    areMerged contents = true
      ↔ (∀ content ∈ contents, isMerged content = true) ∧ contents.IsChain Apart := by
  induction contents with
  | nil => simp [areMerged]
  | cons content rest ih =>
    have edge : (content.isText && headIsText rest) = false
        ↔ ∀ next ∈ rest.head?, Apart content next := by
      cases rest <;> simp [headIsText, Apart]
    simp only [areMerged, Bool.and_eq_true, Bool.not_eq_true', ih, edge, List.forall_mem_cons,
      List.isChain_cons]
    tauto

/-- It does not matter from which end trees are looked at. -/
theorem areMerged_reverse {contents : List Content} (h : areMerged contents = true) :
    areMerged contents.reverse = true := by
  obtain ⟨each, apart⟩ := areMerged_iff.mp h
  refine areMerged_iff.mpr ⟨fun content member => each content (List.mem_reverse.mp member), ?_⟩
  exact List.isChain_reverse.mpr (apart.imp fun _ _ => Apart.symm)

namespace Reader

/-- What a reader holds is merged, and the current text stands beside no other text. -/
structure Merged (r : Reader) : Prop where
  siblings : areMerged r.siblings = true
  apart : headIsText r.siblings = false
  frames : ∀ frame ∈ r.frames, areMerged frame.before = true

theorem merged_start : start.Merged := ⟨rfl, rfl, nofun⟩

namespace Merged

variable {r r' : Reader}

/-- The current text may join what stands before it. -/
theorem flush (h : r.Merged) : areMerged (Reader.flush r.text r.siblings) = true := by
  unfold Reader.flush
  split
  · exact h.siblings
  · rename_i nonempty
    have isText : String.ofList r.text.reverse ≠ "" := by simpa using nonempty
    simp [areMerged, isMerged, isText, h.siblings, h.apart]

/-- An element may follow whatever stands before it. -/
theorem element {name : String} {attributes : List (String × String)}
    {children before : List Content} (inside : areMerged children = true)
    (others : areMerged before = true) :
    areMerged (.element name attributes children :: before) = true := by
  simp [areMerged, isMerged, inside, others, Content.isText]

theorem finishEndTag (h : r.Merged) {next start : Nat} {content : List Char}
    (done : r.finishEndTag next start content = .ok r') : r'.Merged := by
  unfold Reader.finishEndTag at done
  simp only at done
  split at done
  · cases done
  · rename_i frame frames isOpen
    split at done
    · cases done
      have frames := h.frames
      rw [isOpen, List.forall_mem_cons] at frames
      exact ⟨element (areMerged_reverse h.flush) frames.1, rfl, frames.2⟩
    · cases done

/-- Whatever a character means, what the reader holds stays merged. -/
theorem perform (h : r.Merged) {next : Nat} {effect : Effect}
    (done : effect.perform r next = .ok r') : r'.Merged := by
  cases effect with
  | go mode =>
    cases done
    exact ⟨h.siblings, h.apart, h.frames⟩
  | write characters =>
    cases done
    exact ⟨h.siblings, h.apart, h.frames⟩
  | whole name attributes =>
    cases done
    exact ⟨element rfl h.flush, rfl, h.frames⟩
  | opening name attributes =>
    cases done
    exact ⟨rfl, rfl, List.forall_mem_cons.mpr ⟨h.flush, h.frames⟩⟩
  | endTag start content => exact h.finishEndTag done
  | refuse error => cases done

/-- After any number of characters what the reader holds is merged. -/
theorem feed (h : r.Merged) {cs : List Char} (done : r.feed cs = .ok r') : r'.Merged := by
  induction cs generalizing r with
  | nil =>
    cases done
    exact h
  | cons c cs ih =>
    rw [Reader.feed, List.foldlM_cons, step_eq_perform] at done
    cases performed : (r.mode.effect r.offset c).perform r (r.offset + c.utf8Size) with
    | error e =>
      rw [performed] at done
      cases done
    | ok later =>
      rw [performed] at done
      exact ih (h.perform performed) done

end Merged

end Reader

/-- The trees of a text are merged. -/
theorem areMerged_readMarkup {text : String} {contents : List Content}
    (h : readMarkup text = .ok contents) : areMerged contents = true := by
  obtain ⟨r, done, -, -, rfl⟩ := readMarkup_eq_ok.mp h
  exact areMerged_reverse (Reader.merged_start.feed done).flush

end SqlMapper.Markup
