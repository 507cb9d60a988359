/-
Module: SqlMapper.Proofs.TextSpellings
Purpose: However a text is written in a statement, it is the same text.
Main exports: Spelling, Spelling.IsSound, Spelling.readsAsText_written, text_however_spelt
-/
import SqlMapper.Document.Build
import SqlMapper.Proofs.CharacterReferences
import SqlMapper.Proofs.WrittenMarkup

namespace SqlMapper.Markup

open SqlMapper.Document SqlMapper.Text

/-!
A text can be written as characters that stand for themselves, in sections, by
references to its characters, and with comments and instructions anywhere in
it. Each of these pieces takes the reader from text to text and adds what it
stands for, be it nothing, to the text that is being read. Since no piece ends
this text, pieces can be put together, and only the next tag makes a tree of
what all of them stand for.
-/

namespace Reader

/-! ### What is delimited

A reference, a section, a comment and an instruction are all read in a mode of
their own, in which characters are collected until the piece is closed.
-/

section

variable {mode : Nat → List Char → Mode} {opening opened content closing characters : List Char}

/-- An opening takes the reader into the mode, each character of the content is
collected where it stands, and the closing leads back to text. -/
theorem readsAsText_delimited
    (opens : ∀ place found siblings frames,
      Reader.feed ⟨place, .text, found, siblings, frames⟩ opening
        = .ok ⟨placeAfter place opening, mode place opened, found, siblings, frames⟩)
    (passes : ∀ front c back, content = front ++ c :: back → ∀ start next found siblings frames,
      Reader.step ⟨next, mode start (front.reverse ++ opened), found, siblings, frames⟩ c
        = .ok ⟨next + c.utf8Size, mode start (c :: (front.reverse ++ opened)), found, siblings,
            frames⟩)
    (closes : ∀ start next found siblings frames,
      Reader.feed ⟨next, mode start (content.reverse ++ opened), found, siblings, frames⟩ closing
        = .ok ⟨placeAfter next closing, .text, characters.reverse ++ found, siblings, frames⟩) :
    ReadsAsText (opening ++ content ++ closing) characters := by
  intro place found siblings frames
  have inside := foldlM_along
    (fun next read => Reader.mk next (mode place read) found siblings frames)
    (fun front c back split next => passes front c back split place next found siblings frames)
    (placeAfter place opening)
  rw [List.append_assoc, feed_append_of_ok (opens place found siblings frames),
    feed_append_of_ok inside, closes, placeAfter_append, placeAfter_append]

/-- A content goes on behind a bracket in it: what it has before the bracket does
not end in the characters that would close it there. Both are last first. -/
theorem not_closed_before (closing : List Char) {front back more : List Char}
    (unclosed : ¬ closing.reverse ++ ['>'] <:+: content) (split : content = front ++ '>' :: back) :
    front.reverse ≠ closing ++ more := by
  intro met
  have ends : front = more.reverse ++ closing.reverse := by
    rw [← List.reverse_append, ← met, List.reverse_reverse]
  exact unclosed ⟨more.reverse, back, by simp [split, ends]⟩

/-- What is held when a piece is closed starts with its opening. -/
theorem startsWith_held (opening content closing : List Char) :
    startsWith (closing ++ (content.reverse ++ opening.reverse)).reverse opening = true := by
  have whole : (closing ++ (content.reverse ++ opening.reverse)).reverse
      = opening ++ (content ++ closing.reverse) := by simp
  rw [startsWith, whole, List.isPrefixOf_iff_prefix]
  exact List.prefix_append opening _

end

/-- A reference to characters is text. -/
theorem readsAsText_reference {name characters : List Char} (unbroken : IsUnbroken name)
    (resolved : textReference? name = some characters) :
    ReadsAsText ('&' :: (name ++ [';'])) characters := by
  refine @readsAsText_delimited .reference ['&'] [] name [';'] characters (fun _ _ _ _ => rfl) ?_ ?_
  · intro front c back split start next found siblings frames
    have member : c ∈ name := split ▸ List.mem_append_right front List.mem_cons_self
    obtain ⟨notEnd, notAmpersand, notBracket⟩ := unbroken c member
    simp only [Reader.step, if_neg notEnd, notAmpersand, notBracket, or_self, if_false]
    rfl
  · intro start next found siblings frames
    refine foldlM_cons_of_ok ?_ []
    simp only [Reader.step, if_true, finishReference, List.append_nil, List.reverse_reverse,
      resolved]
    rfl

/-- A section is text up to the first `]]>`. -/
theorem readsAsText_section {content : List Char} (unclosed : ¬ "]]>".toList <:+: content) :
    ReadsAsText ("<![CDATA[".toList ++ content ++ "]]>".toList) content := by
  refine @readsAsText_delimited .cdata _ "![CDATA[".toList.reverse _ _ _ (fun _ _ _ _ => rfl) ?_ ?_
  · intro front c back split start next found siblings frames
    by_cases bracket : c = '>'
    · subst bracket
      have goesOn : ∀ more, front.reverse ++ "![CDATA[".toList.reverse ≠ ']' :: ']' :: more := by
        intro more met
        match hfront : front.reverse with
        | [] | [_] => simp [hfront] at met
        | x :: y :: before =>
          simp only [hfront, List.cons_append, List.cons.injEq] at met
          rw [met.1, met.2.1] at hfront
          exact not_closed_before [']', ']'] unclosed split hfront
      simp only [Reader.step, if_true]
      rfl
    · simp only [Reader.step, if_neg bracket]
      rfl
  · intro start next found siblings frames
    have begins := startsWith_held "![CDATA[".toList content [']', ']']
    have body : ((']' :: ']' :: (content.reverse ++ "![CDATA[".toList.reverse)).drop 2).reverse.drop
        "![CDATA[".toList.length = content := by
      rw [List.drop_succ_cons, List.drop_succ_cons, List.drop_zero, List.reverse_append,
        List.reverse_reverse, List.reverse_reverse, List.drop_left]
    have last : Reader.step ⟨next + ']'.utf8Size + ']'.utf8Size,
          .cdata start (']' :: ']' :: (content.reverse ++ "![CDATA[".toList.reverse)), found,
          siblings, frames⟩ '>'
        = .ok ⟨placeAfter next "]]>".toList, .text, content.reverse ++ found, siblings,
            frames⟩ := by
      rw [List.cons_append, List.singleton_append] at begins
      simp only [Reader.step, if_true, finishCdata, begins, body]
      rfl
    exact foldlM_cons_of_ok last []

/-- A comment leaves no trace; it goes on to the first `-->` behind its opening. -/
theorem readsAsText_comment {content : List Char} (unclosed : ¬ "-->".toList <:+: content) :
    ReadsAsText ("<!--".toList ++ content ++ "-->".toList) [] := by
  refine @readsAsText_delimited .comment _ "!--".toList.reverse _ _ _ (fun _ _ _ _ => rfl) ?_ ?_
  · intro front c back split start next found siblings frames
    by_cases bracket : c = '>'
    · subst bracket
      have goesOn : ∀ a b d more,
          front.reverse ++ "!--".toList.reverse ≠ '-' :: '-' :: a :: b :: d :: more := by
        intro a b d more met
        cases hfront : front.reverse with
        | nil => simp [hfront] at met
        | cons x others =>
          cases others with
          | nil => simp [hfront] at met
          | cons y before =>
            simp only [hfront, List.cons_append, List.cons.injEq] at met
            rw [met.1, met.2.1] at hfront
            exact not_closed_before ['-', '-'] unclosed split hfront
      simp only [Reader.step, if_true]
      rfl
    · simp only [Reader.step, if_neg bracket]
      rfl
  · intro start next found siblings frames
    obtain ⟨a, b, d, more, held⟩ :
        ∃ a b d more, content.reverse ++ "!--".toList.reverse = a :: b :: d :: more := by
      rcases content.reverse with _ | ⟨x, _ | ⟨y, _ | ⟨z, others⟩⟩⟩
      all_goals exact ⟨_, _, _, _, rfl⟩
    have begins := startsWith_held "!--".toList content ['-', '-']
    rw [held, List.cons_append, List.singleton_append] at begins
    have last : Reader.step ⟨next + '-'.utf8Size + '-'.utf8Size,
          .comment start ('-' :: '-' :: a :: b :: d :: more), found, siblings, frames⟩ '>'
        = .ok ⟨placeAfter next "-->".toList, .text, found, siblings, frames⟩ := by
      simp only [Reader.step, if_true, finishComment, begins]
      rfl
    rw [held]
    exact foldlM_cons_of_ok last []

/-- An instruction leaves no trace; it goes on to the first `?>` behind its opening. -/
theorem readsAsText_instruction {content : List Char} (starts : content.head? ≠ some '>')
    (unclosed : ¬ "?>".toList <:+: content) :
    ReadsAsText ("<?".toList ++ content ++ "?>".toList) [] := by
  refine @readsAsText_delimited .instruction _ ['?'] _ _ _ (fun _ _ _ _ => rfl) ?_ ?_
  · intro front c back split start next found siblings frames
    by_cases bracket : c = '>'
    · subst bracket
      cases hfront : front.reverse with
      | nil =>
        rw [List.reverse_eq_nil_iff.mp hfront] at split
        exact absurd (by rw [split]; rfl) starts
      | cons x before =>
        have goesOn : x ≠ '?' := by
          rintro rfl
          exact not_closed_before ['?'] unclosed split hfront
        simp only [Reader.step, if_true]
        split
        · rename_i met
          simp at met
        · rename_i met
          cases met
          exact absurd rfl goesOn
        · rfl
    · simp only [Reader.step, if_neg bracket]
      rfl
  · intro start next found siblings frames
    have last : Reader.step ⟨next + '?'.utf8Size,
          .instruction start ('?' :: (content.reverse ++ ['?'])), found, siblings, frames⟩ '>'
        = .ok ⟨placeAfter next "?>".toList, .text, found, siblings, frames⟩ := by
      simp only [Reader.step, if_true]
      split
      · rename_i met
        simp at met
      · rfl
      · rename_i met
        exact absurd rfl (met _)
    exact foldlM_cons_of_ok last []

end Reader

/-! ### Spellings -/

/-- A piece of what is written for a text: characters that stand for themselves,
a section, a reference to a character, a comment or an instruction. -/
inductive Spelling where
  | plain (characters : List Char)
  | cdata (characters : List Char)
  | entity (name : String) (c : Char)
  | decimal (digits : List Char) (c : Char)
  | hexadecimal (digits : List Char) (c : Char)
  | comment (content : List Char)
  | instruction (content : List Char)
deriving Repr, DecidableEq

namespace Spelling

/-- What is written for a piece. -/
def written : Spelling → List Char
  | plain characters => characters
  | cdata characters => "<![CDATA[".toList ++ characters ++ "]]>".toList
  | entity name _ => '&' :: (name.toList ++ [';'])
  | decimal digits _ => '&' :: ('#' :: digits ++ [';'])
  | hexadecimal digits _ => '&' :: ('#' :: 'x' :: digits ++ [';'])
  | comment content => "<!--".toList ++ content ++ "-->".toList
  | instruction content => "<?".toList ++ content ++ "?>".toList

/-- The characters that a piece stands for. -/
def characters : Spelling → List Char
  | plain characters | cdata characters => characters
  | entity _ c | decimal _ c | hexadecimal _ c => [c]
  | comment _ | instruction _ => []

/-- Whether a piece can be written so: characters that stand for themselves are
neither an ampersand nor an opening bracket, what is delimited does not hold what
closes it, and a reference denotes its character. -/
def IsSound : Spelling → Prop
  | plain characters => ∀ c ∈ characters, c ≠ '&' ∧ c ≠ '<'
  | cdata characters => ¬ "]]>".toList <:+: characters
  | entity name c => (name, c) ∈ entities
  | decimal digits c => IsNumeral 10 digits c.toNat
  | hexadecimal digits c => IsNumeral 16 digits c.toNat
  | comment content => ¬ "-->".toList <:+: content
  | instruction content => content.head? ≠ some '>' ∧ ¬ "?>".toList <:+: content

/-- Reading a piece adds the characters that it stands for. -/
theorem readsAsText_written : ∀ {s : Spelling}, s.IsSound →
    Reader.ReadsAsText s.written s.characters
  | plain characters, sound => by
      have all : Reader.ReadsAsText (characters.flatMap fun c => [c])
          (characters.flatMap fun c => [c]) :=
        Reader.readsAsText_flatMap fun c hc =>
          Reader.readsAsText_singleton (sound c hc).1 (sound c hc).2
      rwa [List.flatMap_singleton'] at all
  | cdata _, sound => Reader.readsAsText_section sound
  | entity _ _, sound =>
      Reader.readsAsText_reference (isUnbroken_entity sound) (textReference?_entity sound)
  | decimal _ _, sound =>
      Reader.readsAsText_reference (isUnbroken_decimal sound) (textReference?_decimal sound)
  | hexadecimal _ _, sound =>
      Reader.readsAsText_reference (isUnbroken_hexadecimal sound) (textReference?_hexadecimal sound)
  | comment _, sound => Reader.readsAsText_comment sound
  | instruction _, sound => Reader.readsAsText_instruction sound.1 sound.2

end Spelling

end SqlMapper.Markup

namespace SqlMapper.Document

open SqlMapper.Markup SqlMapper.Markup.Reader SqlMapper.Text

/-- However a text is written in a statement, wherever this stands, it is the same
text and all that the statement holds; of an empty text there is nothing. -/
theorem text_however_spelt {kind id t : String} {rest blanks : List Char}
    {attributes : List (String × String)} {spellings : List Spelling}
    (opening : IsStartTag kind rest attributes) (identified : attribute? attributes "id" = some id)
    (blank : ∀ c ∈ blanks, isMarkupBlank c = true) (sound : ∀ s ∈ spellings, s.IsSound)
    (spelt : spellings.flatMap Spelling.characters = t.toList) :
    ReadsAsElement (elementText kind rest (spellings.flatMap Spelling.written) blanks)
        (.element kind attributes (if t = "" then [] else [.text t]))
      ∧ parse (String.ofList
          (elementText kind rest (spellings.flatMap Spelling.written) blanks))
        = .ok ⟨[⟨kind, id, if t = "" then [] else [.text t]⟩]⟩ := by
  have text : ReadsAsText (spellings.flatMap Spelling.written) t.toList :=
    spelt ▸ readsAsText_flatMap fun s hs => Spelling.readsAsText_written (sound s hs)
  have inside : ReadsAs (spellings.flatMap Spelling.written)
      (if t = "" then [] else [.text t]) := by
    split
    · rename_i empty
      rw [empty] at text
      exact readsAs_of_readsAsText_nil text
    · rename_i nonempty
      have alone := readsAs_text text nonempty (by simp) readsAs_nil
      rwa [List.append_nil] at alone
  have element := readsAsElement_of_isStartTag opening blank inside
  have whole := readsAs_cons element readsAs_nil
  rw [List.append_nil] at whole
  have body : buildNodes (if t = "" then [] else [.text t]) = if t = "" then [] else [.text t] := by
    split <;> rfl
  refine ⟨element, ?_⟩
  simp only [parse, readMarkup_of_readsAs whole rfl, Except.map, ofContents, statementsOfAll,
    statementsOf, identified, body]
  rfl

private def mixedSpellings : List Spelling :=
  [.comment "->".toList, .plain "a ".toList, .cdata [], .entity "lt" '<',
    .decimal "0065".toList 'A', .instruction "as > is?".toList,
    .hexadecimal "0001F600".toList '😀', .cdata "]>&lt;]".toList, .plain "]]>".toList,
    .comment " - ".toList, .entity "amp" '&']

/-- Pieces of every kind, the delimited ones with nearly what closes them. -/
theorem text_however_spelt_mixed :
    (∀ s ∈ mixedSpellings, s.IsSound)
      ∧ parse ("<select id=\"a\"><!--->-->a <![CDATA[]]>&lt;&#0065;<?as > is??>&#x0001F600;"
          ++ "<![CDATA[]>&lt;]]]>]]><!-- - -->&amp;</select >")
        = .ok ⟨[⟨"select", "a", [.text "a <A😀]>&lt;]]]>&"]⟩]⟩ := by
  have sound : ∀ s ∈ mixedSpellings, s.IsSound := by
    have decimal : IsNumeral 10 "0065".toList 'A'.toNat := ⟨2, by decide⟩
    have hexadecimal : IsNumeral 16 "0001F600".toList '😀'.toNat := ⟨3, by decide⟩
    simpa [mixedSpellings, Spelling.IsSound, List.infix_cons_iff, entities]
      using And.intro decimal hexadecimal
  have spelt : mixedSpellings.flatMap Spelling.characters = "a <A😀]>&lt;]]]>&".toList := by rfl
  have opening : IsStartTag "select" (attributeText "id" "a") [("id", "a")] :=
    isStartTag_written "a" (by decide) (by decide)
  have identified : attribute? [("id", "a")] "id" = some "a" := by rfl
  have blank : ∀ c ∈ [' '], isMarkupBlank c = true := by simp [isMarkupBlank]
  have written : String.ofList (elementText "select" (attributeText "id" "a")
      (mixedSpellings.flatMap Spelling.written) [' '])
      = "<select id=\"a\"><!--->-->a <![CDATA[]]>&lt;&#0065;<?as > is??>&#x0001F600;"
        ++ "<![CDATA[]>&lt;]]]>]]><!-- - -->&amp;</select >" := by decide +kernel
  refine ⟨sound, ?_⟩
  rw [← written]
  exact (text_however_spelt opening identified blank sound spelt).2

end SqlMapper.Document
