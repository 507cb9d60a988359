/-
Module: SqlMapper.Proofs.WrittenMarkup
Purpose: Markup that is written for trees of elements and text is read as these trees.
Main exports: ReadsAsText, IsStartTag, ReadsAsElement, ReadsAs, readsAs_text, readsAs_cons,
  readsAsElement_of_isStartTag, readsAsElement_wholeTag, readsAsElement_enclose,
  readsAsElement_encloseWith, readMarkup_of_readsAs
-/
import Mathlib.Data.List.TakeWhile
import SqlMapper.Proofs.Spans
import SqlMapper.Proofs.WrittenValues

namespace SqlMapper.Markup

open SqlMapper.Document SqlMapper.Text

/-!
What a written element does to the reader does not depend on where it stands:
whatever is open and whatever was read before, the reader ends in the same
place with one more element. So what is written for a document can be taken
apart the way it was put together, and nesting needs no argument of its own.
Text is different in one respect, since it goes on until something else starts.
-/

namespace Reader

theorem feed_append_of_ok {r r' : Reader} {cs : List Char} (h : r.feed cs = .ok r')
    (rest : List Char) : r.feed (cs ++ rest) = r'.feed rest :=
  foldlM_append_of_ok h rest

/-! ### Text -/

/-- Characters are text: wherever they stand, reading them adds what they stand
for to the current text. -/
def ReadsAsText (cs characters : List Char) : Prop :=
  ∀ place found siblings frames,
    Reader.feed ⟨place, .text, found, siblings, frames⟩ cs
      = .ok ⟨placeAfter place cs, .text, characters.reverse ++ found, siblings, frames⟩

theorem readsAsText_flatMap {α : Type} {write characters : α → List Char} {pieces : List α}
    (each : ∀ p ∈ pieces, ReadsAsText (write p) (characters p)) :
    ReadsAsText (pieces.flatMap write) (pieces.flatMap characters) :=
  fun place found siblings frames =>
    foldlM_pieces (fun place found => Reader.mk place .text found siblings frames) write characters
      (fun p hp place found => each p hp place found siblings frames) place found

/-- A character that starts neither markup nor a reference stands for itself. -/
theorem readsAsText_singleton {c : Char} (notAmpersand : c ≠ '&') (notBracket : c ≠ '<') :
    ReadsAsText [c] [c] := by
  intro place found siblings frames
  have plain : Reader.step ⟨place, .text, found, siblings, frames⟩ c
      = .ok ⟨place + c.utf8Size, .text, c :: found, siblings, frames⟩ := by
    simp only [Reader.step, if_neg notAmpersand, if_neg notBracket]
    rfl
  exact foldlM_cons_of_ok plain []

theorem readsAsText_escapeTextCharacter (c : Char) : ReadsAsText (escapeTextCharacter c) [c] := by
  unfold escapeTextCharacter
  split
  · exact fun _ _ _ _ => rfl
  · exact fun _ _ _ _ => rfl
  · exact fun _ _ _ _ => rfl
  · exact fun _ _ _ _ => rfl
  · rename_i notAmpersand notBracket _ _
    exact readsAsText_singleton notAmpersand notBracket

theorem readsAsText_escapeText (cs : List Char) : ReadsAsText (escapeText cs) cs := by
  have all : ReadsAsText (cs.flatMap escapeTextCharacter) (cs.flatMap fun c => [c]) :=
    readsAsText_flatMap fun c _ => readsAsText_escapeTextCharacter c
  rwa [List.flatMap_singleton'] at all

/-! ### Tags -/

/-- The quote in which a tag stands after its characters, last first. -/
def quoteAfter (content : List Char) : Option Char :=
  content.foldr (fun c quote => nextQuote quote c) none

theorem foldl_nextQuote_eq {quote : Option Char} {cs : List Char}
    (stays : ∀ c ∈ cs, nextQuote quote c = quote) : cs.foldl nextQuote quote = quote := by
  induction cs with
  | nil => rfl
  | cons c cs ih =>
    rw [List.foldl_cons, stays c List.mem_cons_self]
    exact ih fun d hd => stays d (List.mem_cons_of_mem c hd)

theorem nextQuote_none {c : Char} (notDouble : c ≠ '"') (notSingle : c ≠ '\'') :
    nextQuote none c = none := by
  simp only [nextQuote, notDouble, notSingle, or_self, if_false]

theorem nextQuote_of_ne {c q : Char} (h : c ≠ q) : nextQuote (some q) c = some q := by
  simp only [nextQuote, if_neg h]

/-- What can be a name in a tag: nothing in it ends the name or the tag or is a
quote, and it does not start like something else than a tag. -/
structure IsTagName (name : List Char) : Prop where
  starts : ∃ c rest, name = c :: rest ∧ c ≠ '!' ∧ c ≠ '?' ∧ c ≠ '/'
  unblank : ∀ c ∈ name, isMarkupBlank c = false
  unclosed : '>' ∉ name
  noDouble : '"' ∉ name
  noSingle : '\'' ∉ name

theorem isTagName_of_isPlainName {name : String} (h : isPlainName name = true) :
    IsTagName name.toList := by
  have letters := isPlain_of_mem h
  have without {d : Char} (hd : isPlain d = false) : d ∉ name.toList :=
    fun member => ne_of_isPlain (letters d member) hd rfl
  refine ⟨?_, fun c hc => isMarkupBlank_of_isPlain (letters c hc), without rfl, without rfl,
    without rfl⟩
  obtain ⟨c, rest, hname⟩ := exists_cons_of_isPlainName h
  have first : isPlain c = true := letters c (hname ▸ List.mem_cons_self)
  exact ⟨c, rest, hname, ne_of_isPlain first rfl, ne_of_isPlain first rfl, ne_of_isPlain first rfl⟩

theorem IsTagName.foldl_nextQuote {name : List Char} (h : IsTagName name) :
    name.foldl nextQuote none = none :=
  foldl_nextQuote_eq fun _ hc =>
    nextQuote_none (fun same => h.noDouble (same ▸ hc)) fun same => h.noSingle (same ▸ hc)

/-- What stands between the brackets of a tag that opens an element: a bracket in
it stands in quotes. -/
structure IsTagContent (tag : List Char) : Prop where
  starts : ∃ c rest, tag = c :: rest ∧ c ≠ '!' ∧ c ≠ '?' ∧ c ≠ '/' ∧ c ≠ '>'
  closed : ∀ front back, tag = front ++ '>' :: back → front.foldl nextQuote none ≠ none
  unquoted : tag.foldl nextQuote none = none

theorem quoteAfter_reverse (content : List Char) :
    quoteAfter content.reverse = content.foldl nextQuote none := by
  rw [quoteAfter, List.foldr_reverse]

/-- A tag is read to its end before anything is made of it. -/
theorem feed_tag {tag : List Char} (h : IsTagContent tag) (place : Nat) (text : List Char)
    (siblings : List Content) (frames : List Frame) :
    Reader.feed ⟨place, .text, text, siblings, frames⟩ ('<' :: (tag ++ ['>']))
      = Reader.finishStartTag
          ⟨placeAfter place ('<' :: tag), .startTag place none tag.reverse, text, siblings, frames⟩
          (placeAfter place ('<' :: (tag ++ ['>']))) tag.reverse := by
  obtain ⟨⟨c, rest, rfl, notDeclaration, notInstruction, notEnd, notBracket⟩, closed, unquoted⟩ := h
  have opening : Reader.step ⟨place, .text, text, siblings, frames⟩ '<'
      = .ok ⟨place + '<'.utf8Size, .opened place, text, siblings, frames⟩ := rfl
  have first : Reader.step ⟨place + '<'.utf8Size, .opened place, text, siblings, frames⟩ c
      = .ok ⟨place + '<'.utf8Size + c.utf8Size, .startTag place (quoteAfter [c]) [c],
          text, siblings, frames⟩ := by
    simp only [Reader.step, stepOpened, if_neg notDeclaration, if_neg notInstruction,
      if_neg notEnd, if_neg notBracket]
    rfl
  have others : ∀ front d back, rest = front ++ d :: back → ∀ next,
      Reader.step ⟨next, .startTag place (quoteAfter (front.reverse ++ [c])) (front.reverse ++ [c]),
          text, siblings, frames⟩ d
        = .ok ⟨next + d.utf8Size, .startTag place (quoteAfter (d :: (front.reverse ++ [c])))
            (d :: (front.reverse ++ [c])), text, siblings, frames⟩ := by
    intro front d back hrest next
    have inQuotes : ¬ (d = '>' ∧ quoteAfter (front.reverse ++ [c]) = none) := by
      rintro ⟨rfl, none⟩
      rw [← List.reverse_cons, quoteAfter_reverse] at none
      exact closed (c :: front) back (by rw [hrest, List.cons_append]) none
    simp only [Reader.step, if_neg inQuotes]
    rfl
  have content := foldlM_along
    (fun next found => Reader.mk next (.startTag place (quoteAfter found) found)
      text siblings frames) others (place + '<'.utf8Size + c.utf8Size)
  rw [← List.reverse_cons, quoteAfter_reverse, unquoted] at content
  rw [feed, foldlM_cons_of_ok opening, List.cons_append, foldlM_cons_of_ok first,
    foldlM_append_of_ok content]
  simp only [List.foldlM_cons, List.foldlM_nil, bind_pure, placeAfter_cons, placeAfter_append]
  rfl

theorem takeWhile_name {name : List Char} (named : IsTagName name) {rest : List Char}
    (edge : ∀ c ∈ rest.head?, isMarkupBlank c = true) :
    (name ++ rest).takeWhile (! isMarkupBlank ·) = name
      ∧ (name ++ rest).dropWhile (! isMarkupBlank ·) = rest := by
  have letters : ∀ c ∈ name, (! isMarkupBlank c) = true := by
    intro c hc
    rw [named.unblank c hc]
    rfl
  have blank : rest.head?.any (! isMarkupBlank ·) = false := by
    cases rest with
    | nil => rfl
    | cons c rest => simp [edge c rfl]
  exact ⟨takeWhile_append_of_edge letters blank, dropWhile_append_of_edge letters blank⟩

theorem isTagContent_of_name {name : List Char} (named : IsTagName name) {rest : List Char}
    (closed : ∀ front back, rest = front ++ '>' :: back → front.foldl nextQuote none ≠ none)
    (unquoted : rest.foldl nextQuote none = none) : IsTagContent (name ++ rest) := by
  refine ⟨?_, ?_, ?_⟩
  · obtain ⟨c, others, rfl, notDeclaration, notInstruction, notEnd⟩ := named.starts
    have notBracket : c ≠ '>' := fun same => named.unclosed (same ▸ List.mem_cons_self)
    exact ⟨c, others ++ rest, rfl, notDeclaration, notInstruction, notEnd, notBracket⟩
  · intro front back whole
    rcases List.append_eq_append_iff.mp whole with ⟨front', rfl, hrest⟩ | ⟨back', hname, hback⟩
    · rw [List.foldl_append, named.foldl_nextQuote]
      exact closed front' back hrest
    · cases back' with
      | nil => exact fun _ => closed [] back (by simpa using hback.symm) rfl
      | cons c back' =>
        obtain rfl : '>' = c := by
          rw [List.cons_append] at hback
          exact (List.cons.inj hback).1
        rw [hname] at named
        exact absurd (List.mem_append_right front List.mem_cons_self) named.unclosed
  · rw [List.foldl_append, named.foldl_nextQuote, unquoted]

/-- A tag that opens an element: its name, what follows the name, and the
attributes which that holds. A slash at the end would make it a whole element. -/
structure IsStartTag (name : String) (rest : List Char) (attributes : List (String × String)) :
    Prop where
  named : IsTagName name.toList
  edge : ∀ c ∈ rest.head?, isMarkupBlank c = true
  closed : ∀ front back, rest = front ++ '>' :: back → front.foldl nextQuote none ≠ none
  unquoted : rest.foldl nextQuote none = none
  unslashed : (name.toList ++ rest).getLast? ≠ some '/'
  holds : readAttributes name.toList rest = .ok attributes

/-- The text of a tag that opens an element. -/
def openingTag (name : String) (rest : List Char) : List Char :=
  '<' :: (name.toList ++ rest ++ ['>'])

/-- The text of a tag that closes an element; blanks may follow its name. -/
def closingTag (name : String) (blanks : List Char) : List Char :=
  '<' :: '/' :: (name.toList ++ blanks ++ ['>'])

/-- The text of an element: its tags with a content between them. -/
def elementText (name : String) (rest content blanks : List Char) : List Char :=
  openingTag name rest ++ content ++ closingTag name blanks

theorem feed_openingTag {name : String} {rest : List Char} {attributes : List (String × String)}
    (h : IsStartTag name rest attributes) (place : Nat) (text : List Char)
    (siblings : List Content) (frames : List Frame) :
    Reader.feed ⟨place, .text, text, siblings, frames⟩ (openingTag name rest)
      = .ok ⟨placeAfter place (openingTag name rest), .text, [], [],
          ⟨name, attributes, flush text siblings⟩ :: frames⟩ := by
  obtain ⟨front, back⟩ := takeWhile_name h.named h.edge
  rw [openingTag, feed_tag (isTagContent_of_name h.named h.closed h.unquoted)]
  unfold finishStartTag
  split
  rename_i isWhole content hcontent
  split at hcontent
  · rename_i slash
    have unslashed := h.unslashed
    rw [← List.head?_reverse, slash] at unslashed
    exact absurd rfl unslashed
  · cases hcontent
    simp only [List.reverse_reverse, front, back, h.holds, String.ofList_toList]
    rfl

/-- A start tag that ends with a slash is an element. -/
theorem finishStartTag_of_whole (r : Reader) (next : Nat) {name : String}
    (named : IsTagName name.toList) :
    r.finishStartTag next (name.toList ++ ['/']).reverse
      = .ok ⟨next, .text, [], .element name [] [] :: flush r.text r.siblings, r.frames⟩ := by
  have edge : ∀ c ∈ ([] : List Char).head?, isMarkupBlank c = true := nofun
  obtain ⟨front, back⟩ := takeWhile_name named edge
  rw [List.append_nil] at front back
  rw [List.reverse_append, List.reverse_singleton, List.singleton_append]
  simp only [finishStartTag, List.reverse_reverse, front, back, String.ofList_toList]
  rfl

theorem isStartTag_plain {name : String} (named : isPlainName name = true) :
    IsStartTag name [] [] where
  named := isTagName_of_isPlainName named
  edge := nofun
  closed := by simp
  unquoted := rfl
  unslashed := by
    rw [List.append_nil]
    intro last
    exact ne_of_isPlain (isPlain_of_mem named _ (List.mem_of_getLast? last)) rfl rfl
  holds := rfl

/-- What is written for one attribute after the name in a tag. -/
def attributeText (key value : String) : List Char :=
  ' ' :: (key.toList ++ '=' :: '"' :: (escapeValue value.toList ++ ['"']))

theorem isStartTag_written {name key : String} (value : String) (named : isPlainName name = true)
    (hkey : isPlainName key = true) :
    IsStartTag name (attributeText key value) [(key, value)] where
  named := isTagName_of_isPlainName named
  edge := by
    rintro c ⟨⟩
    rfl
  closed := by
    have inKey : '>' ∉ key.toList := (isTagName_of_isPlainName hkey).unclosed
    have inValue := not_mem_escapeValue (.inr rfl) value.toList
    intro front back whole
    have member : '>' ∈ attributeText key value :=
      whole ▸ List.mem_append_right front List.mem_cons_self
    simp [attributeText, inKey, inValue] at member
  unquoted := by
    have inValue : (escapeValue value.toList).foldl nextQuote (some '"') = some '"' :=
      foldl_nextQuote_eq fun c hc => nextQuote_of_ne fun h =>
        not_mem_escapeValue (.inl rfl) value.toList (h ▸ hc)
    simp [attributeText, List.foldl_append, nextQuote,
      (isTagName_of_isPlainName hkey).foldl_nextQuote, inValue]
  unslashed := by
    have quoted : name.toList ++ attributeText key value = name.toList ++
        ' ' :: (key.toList ++ '=' :: '"' :: escapeValue value.toList) ++ ['"'] := by
      simp [attributeText]
    rw [quoted, List.getLast?_concat]
    decide
  holds := readAttributes_written name.toList value hkey

theorem endTagName_append_blanks {name blanks : List Char} (named : IsTagName name)
    (blank : ∀ c ∈ blanks, isMarkupBlank c = true) : endTagName (name ++ blanks) = name := by
  have last : name.reverse.head?.any isMarkupBlank = false := by
    cases reversed : name.reverse with
    | nil => rfl
    | cons c rest =>
      have member : c ∈ name := List.mem_reverse.mp (reversed ▸ List.mem_cons_self)
      simp [named.unblank c member]
  have dropped : (name ++ blanks).reverse.dropWhile isMarkupBlank = name.reverse := by
    rw [List.reverse_append]
    exact dropWhile_append_of_edge (fun c hc => blank c (List.mem_reverse.mp hc)) last
  have nonempty : name.isEmpty = false := by
    obtain ⟨c, rest, rfl, -⟩ := named.starts
    rfl
  simp only [endTagName, dropped, List.reverse_reverse, nonempty]
  rfl

theorem feed_closingTag {frame : Frame} (named : IsTagName frame.name.toList) {blanks : List Char}
    (blank : ∀ c ∈ blanks, isMarkupBlank c = true) (place : Nat) (text : List Char)
    (siblings : List Content) (frames : List Frame) :
    Reader.feed ⟨place, .text, text, siblings, frame :: frames⟩ (closingTag frame.name blanks)
      = .ok ⟨placeAfter place (closingTag frame.name blanks), .text, [],
          .element frame.name frame.attributes (flush text siblings).reverse :: frame.before,
          frames⟩ := by
  have opening : Reader.step ⟨place, .text, text, siblings, frame :: frames⟩ '<'
      = .ok ⟨place + '<'.utf8Size, .opened place, text, siblings, frame :: frames⟩ := rfl
  have slash : Reader.step
        ⟨place + '<'.utf8Size, .opened place, text, siblings, frame :: frames⟩ '/'
      = .ok ⟨place + '<'.utf8Size + '/'.utf8Size, .endTag place none [], text, siblings,
          frame :: frames⟩ := rfl
  have others : ∀ c ∈ frame.name.toList ++ blanks, ∀ next found,
      Reader.step ⟨next, .endTag place none found, text, siblings, frame :: frames⟩ c
        = .ok ⟨next + c.utf8Size, .endTag place none (c :: found), text, siblings,
            frame :: frames⟩ := by
    intro c hc next found
    have harmless : c ≠ '>' ∧ nextQuote none c = none := by
      rcases List.mem_append.mp hc with letter | space
      · exact ⟨fun same => named.unclosed (same ▸ letter),
          nextQuote_none (fun same => named.noDouble (same ▸ letter))
            fun same => named.noSingle (same ▸ letter)⟩
      · have isNot {d : Char} (hd : isMarkupBlank d = false) : c ≠ d := by
          rintro rfl
          exact absurd (blank c space) (hd ▸ Bool.false_ne_true)
        exact ⟨isNot rfl, nextQuote_none (isNot rfl) (isNot rfl)⟩
    simp only [Reader.step, harmless.1, false_and, if_false, harmless.2]
    rfl
  have content := foldlM_through
    (fun next found => Reader.mk next (.endTag place none found) text siblings (frame :: frames))
    others (place + '<'.utf8Size + '/'.utf8Size) []
  rw [feed, closingTag, foldlM_cons_of_ok opening, foldlM_cons_of_ok slash,
    foldlM_append_of_ok content]
  refine foldlM_cons_of_ok ?_ []
  simp only [Reader.step, finishEndTag, List.append_nil, List.reverse_reverse,
    endTagName_append_blanks named blank, String.ofList_toList, placeAfter_cons, placeAfter_append]
  rfl

/-! ### Elements and trees -/

/-- Characters are an element: wherever they stand, reading them ends the
current text and adds the element to what the innermost open element holds. -/
def ReadsAsElement (cs : List Char) (element : Content) : Prop :=
  ∀ place text siblings frames,
    Reader.feed ⟨place, .text, text, siblings, frames⟩ cs
      = .ok ⟨placeAfter place cs, .text, [], element :: flush text siblings, frames⟩

/-- Characters are trees, the last of which may be a text that can still go on:
wherever they stand, reading them adds the trees to what the innermost open
element holds, if no text comes to stand beside another. -/
def ReadsAs (cs : List Char) (trees : List Content) : Prop :=
  ∀ place text siblings frames, text = [] ∨ (∀ other more, trees ≠ .text other :: more) →
    ∃ text' siblings',
      Reader.feed ⟨place, .text, text, siblings, frames⟩ cs
        = .ok ⟨placeAfter place cs, .text, text', siblings', frames⟩
      ∧ flush text' siblings' = trees.reverse ++ flush text siblings

theorem readsAs_nil : ReadsAs [] [] :=
  fun _ text siblings _ _ => ⟨text, siblings, rfl, rfl⟩

/-- What stands for no characters leaves no trace. -/
theorem readsAs_of_readsAsText_nil {cs : List Char} (h : ReadsAsText cs []) : ReadsAs cs [] :=
  fun place text siblings frames _ => ⟨text, siblings, h place text siblings frames, rfl⟩

theorem readsAs_text {front : List Char} {characters : String} {rest : List Char}
    {trees : List Content} (first : ReadsAsText front characters.toList)
    (nonempty : characters ≠ "") (apart : ∀ other more, trees ≠ .text other :: more)
    (others : ReadsAs rest trees) : ReadsAs (front ++ rest) (.text characters :: trees) := by
  intro place before siblings frames alone
  obtain rfl : before = [] := by
    rcases alone with none | clash
    · exact none
    · exact absurd rfl (clash characters trees)
  have read := first place [] siblings frames
  rw [List.append_nil] at read
  obtain ⟨text, siblings', back, flushed⟩ := others _ characters.toList.reverse siblings frames
    (.inr apart)
  refine ⟨text, siblings', by rw [feed_append_of_ok read, placeAfter_append, back], ?_⟩
  have isText : characters.toList.reverse.isEmpty = false := by simp [nonempty]
  rw [flushed]
  simp [flush, isText]

theorem readsAs_cons {front rest : List Char} {element : Content} {trees : List Content}
    (first : ReadsAsElement front element) (others : ReadsAs rest trees) :
    ReadsAs (front ++ rest) (element :: trees) := by
  intro place text siblings frames _
  obtain ⟨text', siblings', back, flushed⟩ := others (placeAfter place front) []
    (element :: flush text siblings) frames (.inl rfl)
  refine ⟨text', siblings', ?_, ?_⟩
  · rw [feed_append_of_ok (first place text siblings frames), placeAfter_append, back]
  · rw [flushed, List.reverse_cons, List.append_assoc]
    rfl

/-- What is read as trees between a start tag and the end tag for it makes the
children of the element. -/
theorem readsAsElement_of_isStartTag {name : String} {rest blanks content : List Char}
    {attributes : List (String × String)} {children : List Content}
    (opening : IsStartTag name rest attributes) (blank : ∀ c ∈ blanks, isMarkupBlank c = true)
    (inside : ReadsAs content children) :
    ReadsAsElement (elementText name rest content blanks)
      (.element name attributes children) := by
  intro place text siblings frames
  have opens := feed_openingTag opening place text siblings frames
  obtain ⟨text', siblings', middle, flushed⟩ := inside (placeAfter place (openingTag name rest))
    [] [] (⟨name, attributes, flush text siblings⟩ :: frames) (.inl rfl)
  have children : (flush text' siblings').reverse = children := by
    rw [flushed, List.reverse_append, List.reverse_reverse]
    rfl
  have closes := @feed_closingTag ⟨name, attributes, flush text siblings⟩ opening.named blanks blank
    (placeAfter (placeAfter place (openingTag name rest)) content) text' siblings' frames
  rw [elementText, List.append_assoc, feed_append_of_ok opens, feed_append_of_ok middle, closes,
    children, placeAfter_append, placeAfter_append]

theorem readsAsElement_wholeTag {name : String} (named : isElementName name = true) :
    ReadsAsElement ('<' :: (name.toList ++ ['/', '>'])) (.element name [] []) := by
  intro place text siblings frames
  have tagName := isTagName_of_isPlainName (isPlainName_of_isElementName named)
  have noBracket : ∀ front back, ['/'] = front ++ '>' :: back →
      front.foldl nextQuote none ≠ none := by
    intro front back whole
    have member : '>' ∈ ['/'] := whole ▸ List.mem_append_right front List.mem_cons_self
    cases List.mem_singleton.mp member
  have tag : '<' :: (name.toList ++ ['/', '>']) = '<' :: (name.toList ++ ['/'] ++ ['>']) := by simp
  rw [tag, feed_tag (isTagContent_of_name tagName noBracket rfl),
    finishStartTag_of_whole _ _ tagName]

theorem readsAsElement_enclose {name : String} {content : List Char} {children : List Content}
    (named : isElementName name = true) (inside : ReadsAs content children) :
    ReadsAsElement (enclose name content) (.element name [] children) := by
  have parts : enclose name content = elementText name [] content [] := by
    simp [enclose, elementText, openingTag, closingTag]
  rw [parts]
  exact readsAsElement_of_isStartTag (isStartTag_plain (isPlainName_of_isElementName named)) nofun
    inside

theorem readsAsElement_encloseWith {name key : String} (value : String) {content : List Char}
    {children : List Content} (named : isElementName name = true)
    (hkey : isElementName key = true) (inside : ReadsAs content children) :
    ReadsAsElement (encloseWith name key value content)
      (.element name [(key, value)] children) := by
  have parts : encloseWith name key value content
      = elementText name (attributeText key value) content [] := by
    simp [encloseWith, startTag, elementText, openingTag, attributeText, closingTag]
  rw [parts]
  exact readsAsElement_of_isStartTag (isStartTag_written value (isPlainName_of_isElementName named)
    (isPlainName_of_isElementName hkey)) nofun inside

end Reader

open Reader in
/-- A text that is trees is read as these trees. -/
theorem readMarkup_of_readsAs {cs : List Char} {trees : List Content} (h : ReadsAs cs trees)
    (noMark : dropByteOrderMark cs = cs) : readMarkup (String.ofList cs) = .ok trees := by
  obtain ⟨text, siblings, hread, flushed⟩ := h 0 [] [] [] (.inl rfl)
  rw [readMarkup, String.toList_ofList, noMark, Reader.start, hread]
  simp only [Reader.finish, flushed]
  simp [flush]

end SqlMapper.Markup
