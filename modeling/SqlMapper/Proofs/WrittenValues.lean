/-
Module: SqlMapper.Proofs.WrittenValues
Purpose: What is written in an attribute or as text is read as it was.
Main exports: foldlM_pieces, foldlM_along, unescapeValue_escapeValue, readAttributes_written
-/
import SqlMapper.Document.NormalForm
import SqlMapper.Document.Printer
import SqlMapper.Markup.Reader

namespace SqlMapper.Markup

open SqlMapper.Document SqlMapper.Text

/-!
Every reader here goes over its characters once, counts their bytes, and
collects in some of its states what it has read, last character first. So one
fact serves all of them: where each character is written in a way that reading
adds the character to the collection, reading what is written for a text adds
the text.
-/

/-- The place behind characters, counted in bytes. -/
def placeAfter (place : Nat) (cs : List Char) : Nat :=
  cs.foldl (fun n c => n + c.utf8Size) place

theorem placeAfter_cons (place : Nat) (c : Char) (cs : List Char) :
    placeAfter place (c :: cs) = placeAfter (place + c.utf8Size) cs := rfl

theorem placeAfter_append (place : Nat) (front back : List Char) :
    placeAfter place (front ++ back) = placeAfter (placeAfter place front) back :=
  List.foldl_append

section

variable {σ ε : Type} {step : σ → Char → Except ε σ}

theorem foldlM_append_of_ok {s s' : σ} {cs : List Char} (h : cs.foldlM step s = .ok s')
    (rest : List Char) : (cs ++ rest).foldlM step s = rest.foldlM step s' := by
  rw [List.foldlM_append, h]
  rfl

theorem foldlM_cons_of_ok {s s' : σ} {c : Char} (h : step s c = .ok s') (rest : List Char) :
    (c :: rest).foldlM step s = rest.foldlM step s' := by
  rw [List.foldlM_cons, h]
  rfl

/-- Reading what is written for each piece collects what the pieces stand for. -/
theorem foldlM_pieces {α : Type} (state : Nat → List Char → σ) (write adds : α → List Char)
    {pieces : List α}
    (reads : ∀ p ∈ pieces, ∀ place found, (write p).foldlM step (state place found)
      = .ok (state (placeAfter place (write p)) ((adds p).reverse ++ found)))
    (place : Nat) (found : List Char) :
    (pieces.flatMap write).foldlM step (state place found)
      = .ok (state (placeAfter place (pieces.flatMap write))
          ((pieces.flatMap adds).reverse ++ found)) := by
  induction pieces generalizing place found with
  | nil => rfl
  | cons p pieces ih =>
    rw [List.flatMap_cons, foldlM_append_of_ok (reads p List.mem_cons_self place found),
      ih fun q hq => reads q (List.mem_cons_of_mem p hq), placeAfter_append, List.flatMap_cons,
      List.reverse_append, List.append_assoc]

/-- Reading what is written for each character reads the characters. -/
theorem foldlM_flatMap (state : Nat → List Char → σ) (write : Char → List Char) {cs : List Char}
    (reads : ∀ c ∈ cs, ∀ place found, (write c).foldlM step (state place found)
      = .ok (state (placeAfter place (write c)) (c :: found)))
    (place : Nat) (found : List Char) :
    (cs.flatMap write).foldlM step (state place found)
      = .ok (state (placeAfter place (cs.flatMap write)) (cs.reverse ++ found)) := by
  have all := foldlM_pieces state write (fun c => [c]) reads place found
  rwa [List.flatMap_singleton'] at all

/-- Reading on through characters none of which, where it stands, ends what is
collected. -/
theorem foldlM_along (state : Nat → List Char → σ) {cs found : List Char}
    (reads : ∀ front c back, cs = front ++ c :: back → ∀ place,
      step (state place (front.reverse ++ found)) c
        = .ok (state (place + c.utf8Size) (c :: (front.reverse ++ found))))
    (place : Nat) :
    cs.foldlM step (state place found)
      = .ok (state (placeAfter place cs) (cs.reverse ++ found)) := by
  induction cs generalizing place found with
  | nil => rfl
  | cons c cs ih =>
    have first : step (state place found) c = .ok (state (place + c.utf8Size) (c :: found)) :=
      reads [] c cs rfl place
    have others : ∀ front d back, cs = front ++ d :: back → ∀ next,
        step (state next (front.reverse ++ c :: found)) d
          = .ok (state (next + d.utf8Size) (d :: (front.reverse ++ c :: found))) := by
      intro front d back hcs next
      simpa using reads (c :: front) d back (by rw [hcs, List.cons_append]) next
    rw [foldlM_cons_of_ok first, ih others, placeAfter_cons, List.reverse_cons, List.append_assoc,
      List.singleton_append]

/-- Reading on through characters of which none ends what is collected. -/
theorem foldlM_through (state : Nat → List Char → σ) {cs : List Char}
    (reads : ∀ c ∈ cs, ∀ place found,
      step (state place found) c = .ok (state (place + c.utf8Size) (c :: found)))
    (place : Nat) (found : List Char) :
    cs.foldlM step (state place found)
      = .ok (state (placeAfter place cs) (cs.reverse ++ found)) := by
  refine foldlM_along state (fun front c back hcs next => reads c ?_ next _) place
  rw [hcs]
  exact List.mem_append_right front List.mem_cons_self

end

/-! ### Characters of names -/

theorem ne_of_isPlain {c d : Char} (hc : isPlain c = true) (hd : isPlain d = false) : c ≠ d := by
  rintro rfl
  rw [hc] at hd
  cases hd

theorem isMarkupBlank_of_isPlain {c : Char} (h : isPlain c = true) : isMarkupBlank c = false := by
  have isNot {d : Char} (hd : isPlain d = false) : c ≠ d := ne_of_isPlain h hd
  have space : c ≠ ' ' := isNot (by decide)
  have tab : c ≠ '\t' := isNot (by decide)
  have newline : c ≠ '\n' := isNot (by decide)
  have returning : c ≠ '\r' := isNot (by decide)
  simp [isMarkupBlank, space, tab, newline, returning]

theorem isPlain_of_mem {name : String} (h : isPlainName name = true) :
    ∀ c ∈ name.toList, isPlain c = true := by
  rw [isPlainName, Bool.and_eq_true] at h
  exact List.all_eq_true.mp h.2

theorem exists_cons_of_isPlainName {name : String} (h : isPlainName name = true) :
    ∃ c rest, name.toList = c :: rest := by
  rw [isPlainName, Bool.and_eq_true, Bool.not_eq_true'] at h
  cases hname : name.toList with
  | nil =>
    rw [hname] at h
    cases h.1
  | cons c rest => exact ⟨c, rest, rfl⟩

/-! ### Attribute values -/

theorem step_escapeValueCharacter (length : Nat) (c : Char) (place : Nat) (found : List Char) :
    (escapeValueCharacter c).foldlM (ValueScan.step length) ⟨place, found, none⟩
      = .ok ⟨placeAfter place (escapeValueCharacter c), c :: found, none⟩ := by
  unfold escapeValueCharacter
  split
  · rfl
  · rfl
  · rfl
  · rfl
  · unfold escapeTextCharacter
    split
    · rfl
    · rfl
    · rfl
    · rfl
    · rename_i notAmpersand _ _ _
      have plain : ValueScan.step length ⟨place, found, none⟩ c
          = .ok ⟨place + c.utf8Size, c :: found, none⟩ := by
        simp only [ValueScan.step, if_neg notAmpersand]
      exact foldlM_cons_of_ok plain []

/-- Resolving the references of a written value gives the value. -/
theorem unescapeValue_escapeValue (cs : List Char) : unescapeValue (escapeValue cs) = .ok cs := by
  unfold unescapeValue ValueScan.start
  simp only [escapeValue, List.append_nil, List.reverse_reverse,
    foldlM_flatMap (fun place found => ValueScan.mk place found none) escapeValueCharacter
      fun c _ => step_escapeValueCharacter _ c]

/-- A written value is free of the quote around it and of the bracket behind it. -/
theorem not_mem_escapeValue {d : Char} (hd : d = '"' ∨ d = '>') (cs : List Char) :
    d ∉ escapeValue cs := by
  rw [escapeValue, List.mem_flatMap]
  rintro ⟨c, -, hc⟩
  revert hc
  unfold escapeValueCharacter
  split
  iterate 4 rcases hd with rfl | rfl <;> decide
  rename_i notQuote _ _ _
  unfold escapeTextCharacter
  split
  iterate 4 rcases hd with rfl | rfl <;> decide
  rename_i notBracket _
  rw [List.mem_singleton]
  rintro rfl
  exact hd.elim notQuote notBracket

/-! ### Attributes -/

theorem read_key {key : String} (hkey : isPlainName key = true) (tag : String) (place : Nat) :
    (key.toList ++ ['=']).foldlM (AttributeScan.step tag) ⟨place, .between, []⟩
      = .ok ⟨placeAfter place (key.toList ++ ['=']), .beforeValue place key, []⟩ := by
  obtain ⟨c, rest, hk⟩ := exists_cons_of_isPlainName hkey
  have letters := isPlain_of_mem hkey
  rw [hk] at letters ⊢
  have first : AttributeScan.step tag ⟨place, .between, []⟩ c
      = .ok ⟨place + c.utf8Size, .key place [c], []⟩ := by
    simp [AttributeScan.step, isMarkupBlank_of_isPlain (letters c List.mem_cons_self)]
  have others : ∀ d ∈ rest, ∀ next found,
      AttributeScan.step tag ⟨next, .key place found, []⟩ d
        = .ok ⟨next + d.utf8Size, .key place (d :: found), []⟩ := by
    intro d hd next found
    have letter := letters d (List.mem_cons_of_mem c hd)
    have notEquals : d ≠ '=' := ne_of_isPlain letter (by decide)
    simp [AttributeScan.step, notEquals, isMarkupBlank_of_isPlain letter]
  have name := foldlM_through (fun next found => AttributeScan.mk next (.key place found) [])
    others (place + c.utf8Size) [c]
  rw [List.cons_append, foldlM_cons_of_ok first, foldlM_append_of_ok name]
  have whole : String.ofList (rest.reverse ++ [c]).reverse = key := by
    rw [List.reverse_append, List.reverse_reverse, List.reverse_singleton, List.singleton_append,
      ← hk, String.ofList_toList]
  rw [placeAfter_cons, placeAfter_append]
  refine foldlM_cons_of_ok ?_ []
  simp only [AttributeScan.step, if_true, AttributeScan.endKey, List.find?_nil, whole]
  rfl

theorem read_value (tag key value : String) (place start : Nat)
    (found : List (Nat × String × String)) :
    ('"' :: (escapeValue value.toList ++ ['"'])).foldlM (AttributeScan.step tag)
        ⟨place, .beforeValue start key, found⟩
      = .ok ⟨placeAfter place ('"' :: (escapeValue value.toList ++ ['"'])), .between,
          (start, key, value) :: found⟩ := by
  have opening : AttributeScan.step tag ⟨place, .beforeValue start key, found⟩ '"'
      = .ok ⟨place + '"'.utf8Size, .value start key '"' [], found⟩ := rfl
  have inside : ∀ c ∈ escapeValue value.toList, ∀ next characters,
      AttributeScan.step tag ⟨next, .value start key '"' characters, found⟩ c
        = .ok ⟨next + c.utf8Size, .value start key '"' (c :: characters), found⟩ := by
    intro c hc next characters
    have notQuote : c ≠ '"' := by
      rintro rfl
      exact not_mem_escapeValue (.inl rfl) _ hc
    simp only [AttributeScan.step, if_neg notQuote]
  have content := foldlM_through
    (fun next characters => AttributeScan.mk next (.value start key '"' characters) found)
    inside (place + '"'.utf8Size) []
  rw [foldlM_cons_of_ok opening, foldlM_append_of_ok content]
  rw [placeAfter_cons, placeAfter_append]
  refine foldlM_cons_of_ok ?_ []
  simp only [AttributeScan.step, if_true, List.append_nil, List.reverse_reverse,
    unescapeValue_escapeValue, String.ofList_toList]
  rfl

/-- What is written for one attribute is read as that attribute. -/
theorem readAttributes_written (name : List Char) {key : String} (value : String)
    (hkey : isPlainName key = true) :
    readAttributes name
        (' ' :: (key.toList ++ '=' :: '"' :: (escapeValue value.toList ++ ['"'])))
      = .ok [(key, value)] := by
  have blank (tag : String) (place : Nat) : AttributeScan.step tag ⟨place, .between, []⟩ ' '
      = .ok ⟨place + 1, .between, []⟩ := rfl
  simp only [readAttributes]
  rw [foldlM_cons_of_ok (blank _ _), List.append_cons, foldlM_append_of_ok (read_key hkey _ _),
    read_value]
  rfl

end SqlMapper.Markup
