/-
Module: SqlMapper.Proofs.ExpressionForm
Purpose: The form of test expressions, and which texts are refused for which reason.
Main exports: WithoutOpening, WithoutClosing, Denotes, Layout, Layout.Covers,
  Layout.Covers.unique, parts?_eq_some_iff, parse_eq_ok_iff, parse_classifies
-/
import SqlMapper.Condition.Expression
import SqlMapper.Proofs.Reflow

namespace SqlMapper.Condition

open SqlMapper.Text

/-!
An expression is laid out in seven parts: a property, an operator and a literal
with blanks before, between and behind them. The parts of a text are determined
by it. A text that cannot be laid out, or whose literal holds blanks and no quote
at either end, is malformed; if only the operator is none of the six, the
operator is named.
-/

/-! ### Quotes at the ends of a literal -/

/-- The text starts with a quote. -/
def Opens (cs : List Char) : Prop := ∃ quote rest, isQuote quote = true ∧ cs = quote :: rest

/-- The text ends with a quote. -/
def Closes (cs : List Char) : Prop := ∃ start quote, isQuote quote = true ∧ cs = start ++ [quote]

/-- A text and what is left of it without the quote at its start, if it has one. -/
inductive WithoutOpening : List Char → List Char → Prop where
  | quoted {quote : Char} {rest : List Char} (h : isQuote quote = true) :
      WithoutOpening (quote :: rest) rest
  | bare {cs : List Char} (h : ¬ Opens cs) : WithoutOpening cs cs

/-- A text and what is left of it without the quote at its end, if it has one. -/
inductive WithoutClosing : List Char → List Char → Prop where
  | quoted {quote : Char} {start : List Char} (h : isQuote quote = true) :
      WithoutClosing (start ++ [quote]) start
  | bare {cs : List Char} (h : ¬ Closes cs) : WithoutClosing cs cs

/-- What a written literal stands for. With a quote at either end it loses one at
its start, and then one at the end of what remains; with none it stands for
itself, and may not hold blanks. -/
inductive Denotes : List Char → List Char → Prop where
  | quoted {written inner literal : List Char} (some : Opens written ∨ Closes written)
      (front : WithoutOpening written inner) (back : WithoutClosing inner literal) :
      Denotes written literal
  | bare {written : List Char} (front : ¬ Opens written) (back : ¬ Closes written)
      (solid : ∀ c ∈ written, isBlank c = false) : Denotes written written

theorem stripOpening_eq_some_iff {cs rest : List Char} :
    stripOpening cs = some rest ↔ ∃ quote, isQuote quote = true ∧ cs = quote :: rest := by
  cases cs with
  | nil => simp [stripOpening]
  | cons c cs =>
    by_cases quote : isQuote c = true
    · simp [stripOpening, quote]
    · simp [stripOpening, quote]

theorem stripClosing_eq_some_iff {cs start : List Char} :
    stripClosing cs = some start ↔ ∃ quote, isQuote quote = true ∧ cs = start ++ [quote] := by
  simp only [stripClosing, Option.map_eq_some_iff, stripOpening_eq_some_iff]
  constructor
  · rintro ⟨rest, ⟨quote, h, back⟩, rfl⟩
    refine ⟨quote, h, ?_⟩
    rw [← List.reverse_cons, ← back, List.reverse_reverse]
  · rintro ⟨quote, h, rfl⟩
    exact ⟨start.reverse, ⟨quote, h, by simp⟩, List.reverse_reverse start⟩

theorem stripOpening_eq_none_iff {cs : List Char} : stripOpening cs = none ↔ ¬ Opens cs := by
  simp only [Option.eq_none_iff_forall_ne_some, ne_eq, stripOpening_eq_some_iff, Opens]
  exact ⟨fun h ⟨quote, rest, found⟩ => h rest ⟨quote, found⟩,
    fun h rest ⟨quote, found⟩ => h ⟨quote, rest, found⟩⟩

theorem stripClosing_eq_none_iff {cs : List Char} : stripClosing cs = none ↔ ¬ Closes cs := by
  simp only [Option.eq_none_iff_forall_ne_some, ne_eq, stripClosing_eq_some_iff, Closes, not_exists]

theorem withoutOpening_iff {cs rest : List Char} :
    WithoutOpening cs rest ↔ (stripOpening cs).getD cs = rest := by
  constructor
  · rintro (⟨h⟩ | ⟨h⟩)
    · rw [stripOpening_eq_some_iff.mpr ⟨_, h, rfl⟩, Option.getD_some]
    · rw [stripOpening_eq_none_iff.mpr h, Option.getD_none]
  · rintro rfl
    cases found : stripOpening cs with
    | none => exact .bare (stripOpening_eq_none_iff.mp found)
    | some rest =>
      obtain ⟨quote, h, rfl⟩ := stripOpening_eq_some_iff.mp found
      exact .quoted h

theorem withoutClosing_iff {cs start : List Char} :
    WithoutClosing cs start ↔ (stripClosing cs).getD cs = start := by
  constructor
  · rintro (⟨h⟩ | ⟨h⟩)
    · rw [stripClosing_eq_some_iff.mpr ⟨_, h, rfl⟩, Option.getD_some]
    · rw [stripClosing_eq_none_iff.mpr h, Option.getD_none]
  · rintro rfl
    cases found : stripClosing cs with
    | none => exact .bare (stripClosing_eq_none_iff.mp found)
    | some start =>
      obtain ⟨quote, h, rfl⟩ := stripClosing_eq_some_iff.mp found
      exact .quoted h

theorem unquote?_eq_none_iff {cs : List Char} :
    unquote? cs = none ↔ ¬ Opens cs ∧ ¬ Closes cs := by
  rw [← stripOpening_eq_none_iff, ← stripClosing_eq_none_iff, unquote?]
  cases stripOpening cs <;> simp

/-- With a quote at either end a text loses one at its start, and then one at the
end of what remains. -/
theorem unquote?_of_quoted {cs : List Char} (quoted : Opens cs ∨ Closes cs) :
    unquote? cs
      = some ((stripClosing ((stripOpening cs).getD cs)).getD ((stripOpening cs).getD cs)) := by
  rw [unquote?]
  cases opening : stripOpening cs with
  | some inner => rfl
  | none =>
    cases closing : stripClosing cs with
    | some start => simp [closing]
    | none =>
      rw [stripOpening_eq_none_iff] at opening
      rw [stripClosing_eq_none_iff] at closing
      exact absurd quoted (not_or.mpr ⟨opening, closing⟩)

theorem literal?_of_denotes {written literal : List Char} (nonempty : written ≠ [])
    (denotes : Denotes written literal) : literal? written = some literal := by
  rw [literal?, if_neg (by simpa using nonempty)]
  cases denotes with
  | quoted some front back =>
    rw [unquote?_of_quoted some, withoutOpening_iff.mp front, withoutClosing_iff.mp back]
  | bare front back solid =>
    have noBlank : ¬ written.any isBlank = true := by simpa using solid
    simp only [unquote?_eq_none_iff.mpr ⟨front, back⟩, if_neg noBlank]

theorem denotes_of_literal? {written literal : List Char} (found : literal? written = some literal) :
    written ≠ [] ∧ Denotes written literal := by
  rw [literal?] at found
  split at found
  · cases found
  · rename_i nonempty
    refine ⟨by simpa using nonempty, ?_⟩
    by_cases bare : ¬ Opens written ∧ ¬ Closes written
    · rw [unquote?_eq_none_iff.mpr bare] at found
      have solid : ¬ written.any isBlank = true := by
        intro blank
        simp [blank] at found
      simp only [if_neg solid, Option.some.injEq] at found
      subst found
      exact .bare bare.1 bare.2 (by simpa using solid)
    · have quoted : Opens written ∨ Closes written := by tauto
      rw [unquote?_of_quoted quoted] at found
      cases found
      exact .quoted quoted (withoutOpening_iff.mpr rfl) (withoutClosing_iff.mpr rfl)

/-- A written literal stands for one literal only. -/
theorem Denotes.unique {written literal literal' : List Char} (nonempty : written ≠ [])
    (h : Denotes written literal) (h' : Denotes written literal') : literal = literal' := by
  have found := literal?_of_denotes nonempty h
  rw [literal?_of_denotes nonempty h'] at found
  exact (Option.some.inj found).symm

/-! ### Tokens -/

/-- Blanks that begin a text with a blank at its start, and end before another
character, are not empty. -/
theorem isRun_of_edge {run rest : List Char} (blanks : isBlankText run = true)
    (edge : rest.head?.any isBlank = false) (start : (run ++ rest).head?.any isBlank = true) :
    IsRun run := by
  refine ⟨?_, isBlankText_iff.mp blanks⟩
  rintro rfl
  rw [List.nil_append, edge] at start
  cases start

/-- A token is cut at the first blank behind it. -/
theorem cutToken?_append {indent token rest : List Char} (blanks : isBlankText indent = true)
    (word : IsWord token) (start : rest.head?.any isBlank = true) :
    cutToken? (indent ++ (token ++ rest)) = some (token, rest) := by
  have inside : ∀ c ∈ token, (! isBlank c) = true := by simpa using word.2
  cases rest with
  | nil => cases start
  | cons c rest =>
    have edge : (c :: rest).head?.any (! isBlank ·) = false := by simpa using start
    rw [cutToken?, trimStart_append blanks (word.head?_append (c :: rest)),
      dropWhile_append_of_edge inside edge, takeWhile_append_of_edge inside edge]

theorem exists_of_cutToken? {cs token rest : List Char} (found : cutToken? cs = some (token, rest)) :
    ∃ indent, isBlankText indent = true ∧ IsWord token ∧ rest.head?.any isBlank = true
      ∧ cs = indent ++ (token ++ rest) := by
  obtain ⟨indent, blanks, whole⟩ := exists_trimStart cs
  obtain ⟨front, back, inside, edge, parts, taken, dropped⟩ :=
    exists_span (! isBlank ·) (trimStart cs)
  have first : (front ++ back).head?.any isBlank = false := parts ▸ head?_trimStart cs
  rw [cutToken?, taken, dropped] at found
  cases back with
  | nil => cases found
  | cons c back =>
    cases found
    have blank : isBlank c = true := by simpa using edge
    refine ⟨indent, blanks, ⟨?_, by simpa using inside⟩, blank, parts ▸ whole⟩
    -- With no token in front of it, the blank would stand where the text begins.
    rintro rfl
    have letter : isBlank c = false := first
    rw [blank] at letter
    cases letter

/-! ### Layout -/

/-- The parts of an expression as it is written: a property, an operator and a
literal, and what stands before, between and behind them. -/
@[ext]
structure Layout where
  indent : List Char
  property : List Char
  gap : List Char
  operator : List Char
  secondGap : List Char
  written : List Char
  trail : List Char
deriving Repr, DecidableEq

namespace Layout

/-- The parts behind the operator. -/
def behindOperator (l : Layout) : List Char := l.secondGap ++ (l.written ++ l.trail)

/-- The parts behind the property. -/
def behindProperty (l : Layout) : List Char := l.gap ++ (l.operator ++ l.behindOperator)

/-- All parts, one after the other. -/
def text (l : Layout) : List Char := l.indent ++ (l.property ++ l.behindProperty)

/-- The parts make up a text: the property and the operator are words, there are
blanks between the three and perhaps around them, and the literal neither starts
nor ends with a blank. -/
structure Covers (l : Layout) (cs : List Char) : Prop where
  whole : cs = l.text
  indent : isBlankText l.indent = true
  property : IsWord l.property
  gap : IsRun l.gap
  operator : IsWord l.operator
  secondGap : IsRun l.secondGap
  nonempty : l.written ≠ []
  trimmed : IsTrimmed l.written
  trail : isBlankText l.trail = true

namespace Covers

variable {l l' : Layout} {cs : List Char}

theorem cut_property (h : l.Covers cs) : cutToken? cs = some (l.property, l.behindProperty) := by
  rw [h.whole]
  exact cutToken?_append h.indent h.property (h.gap.head?_append _)

theorem cut_operator (h : l.Covers cs) :
    cutToken? l.behindProperty = some (l.operator, l.behindOperator) :=
  cutToken?_append (isBlankText_iff.mpr h.gap.2) h.operator (h.secondGap.head?_append _)

theorem trimStart_behindOperator (h : l.Covers cs) :
    trimStart l.behindOperator = l.written ++ l.trail :=
  trimStart_append (isBlankText_iff.mpr h.secondGap.2) (head?_append_any h.nonempty h.trimmed _)

theorem trim_behindOperator (h : l.Covers cs) : trim l.behindOperator = l.written :=
  trim_append (isBlankText_iff.mpr h.secondGap.2) h.nonempty h.trimmed h.trail

/-- A text can be laid out in one way only. -/
theorem unique (h : l.Covers cs) (h' : l'.Covers cs) : l = l' := by
  have token := h.cut_property.symm.trans h'.cut_property
  simp only [Option.some.injEq, Prod.mk.injEq] at token
  obtain ⟨property, behind⟩ := token
  have token := h.cut_operator
  rw [behind, h'.cut_operator] at token
  simp only [Option.some.injEq, Prod.mk.injEq] at token
  obtain ⟨operator, literal⟩ := And.imp Eq.symm Eq.symm token
  have written := h.trim_behindOperator
  rw [literal, h'.trim_behindOperator] at written
  -- The blanks around the three parts are what is left of the text.
  have trail := h.trimStart_behindOperator
  rw [literal, h'.trimStart_behindOperator, written, List.append_cancel_left_eq] at trail
  have indent := h.whole.symm.trans h'.whole
  rw [text, text, property, behind, List.append_cancel_right_eq] at indent
  have gap := behind
  rw [behindProperty, behindProperty, operator, literal, List.append_cancel_right_eq] at gap
  have secondGap := literal
  rw [behindOperator, behindOperator, written, trail, List.append_cancel_right_eq] at secondGap
  exact Layout.ext indent property gap operator secondGap written.symm trail.symm

end Covers

/-- A property and an operator that were cut off, and a literal behind them, lay
the text out. -/
theorem exists_covers {cs property behind operator rest : List Char}
    (first : cutToken? cs = some (property, behind))
    (second : cutToken? behind = some (operator, rest)) (nonempty : trim rest ≠ []) :
    ∃ l : Layout, l.Covers cs ∧ l.property = property ∧ l.operator = operator
      ∧ l.written = trim rest := by
  obtain ⟨indent, blanks, word, start, whole⟩ := exists_of_cutToken? first
  obtain ⟨gap, between, word', start', rfl⟩ := exists_of_cutToken? second
  obtain ⟨secondGap, trail, front, back, parts⟩ := exists_trim rest
  have trimmed := isTrimmed_trim rest
  have gapRun : IsRun gap := isRun_of_edge between (word'.head?_append _) start
  rw [parts] at start'
  have secondGapRun : IsRun secondGap :=
    isRun_of_edge front (head?_append_any nonempty trimmed trail) start'
  refine ⟨⟨indent, property, gap, operator, secondGap, trim rest, trail⟩,
    ⟨?_, blanks, word, gapRun, word', secondGapRun, nonempty, trimmed, back⟩, rfl, rfl, rfl⟩
  rw [text, behindProperty, behindOperator, ← parts]
  exact whole

end Layout

theorem parts?_eq_some_iff {cs property operator literal : List Char} :
    parts? cs = some (property, operator, literal)
      ↔ ∃ l : Layout, l.Covers cs ∧ l.property = property ∧ l.operator = operator
        ∧ Denotes l.written literal := by
  constructor
  · intro found
    rw [parts?] at found
    split at found
    · cases found
    · rename_i property' behind first
      split at found
      · cases found
      · rename_i operator' rest second
        obtain ⟨literal', denoted, same⟩ := Option.map_eq_some_iff.mp found
        cases same
        obtain ⟨nonempty, denotes⟩ := denotes_of_literal? denoted
        obtain ⟨l, covers, property, operator, written⟩ :=
          Layout.exists_covers first second nonempty
        exact ⟨l, covers, property, operator, written ▸ denotes⟩
  · rintro ⟨l, covers, rfl, rfl, denotes⟩
    have denoted := literal?_of_denotes covers.nonempty denotes
    simp only [parts?, covers.cut_property, covers.cut_operator, covers.trim_behindOperator,
      denoted, Option.map_some]

/-! ### Reading -/

namespace Expression

variable {text : String} {x : Expression}

/-- A text that can be laid out is read by its parts; only the operator may then
be none of the six. -/
theorem parse_of_covers {l : Layout} {literal : List Char} (covers : l.Covers text.toList)
    (denotes : Denotes l.written literal) :
    parse text = match Operator.read? (String.ofList l.operator) with
      | none => .error (.unknownOperator (String.ofList l.operator) text)
      | some operator => .ok ⟨String.ofList l.property, operator, String.ofList literal⟩ := by
  have parts := parts?_eq_some_iff.mpr ⟨l, covers, rfl, rfl, denotes⟩
  cases named : Operator.read? (String.ofList l.operator) with
  | none => simp only [parse, parts, named]
  | some operator => simp only [parse, parts, named]

theorem parse_of_not_covered
    (h : ¬ ∃ (l : Layout) (literal : List Char), l.Covers text.toList ∧ Denotes l.written literal) :
    parse text = .error (.malformed text) := by
  rw [parse]
  cases found : parts? text.toList with
  | none => rfl
  | some parts =>
    obtain ⟨l, covers, -, -, denotes⟩ := parts?_eq_some_iff.mp found
    exact absurd ⟨l, _, covers, denotes⟩ h

/-- An expression is read from exactly the texts that show its three parts. -/
theorem parse_eq_ok_iff :
    parse text = .ok x
      ↔ ∃ l : Layout, l.Covers text.toList ∧ l.property = x.property.toList
        ∧ l.operator = x.operator.text.toList ∧ Denotes l.written x.literal.toList := by
  constructor
  · intro read
    by_cases laid : ∃ (l : Layout) (literal : List Char),
        l.Covers text.toList ∧ Denotes l.written literal
    · obtain ⟨l, literal, covers, denotes⟩ := laid
      rw [parse_of_covers covers denotes] at read
      split at read
      · cases read
      · rename_i operator named
        cases read
        refine ⟨l, covers, String.toList_ofList.symm, ?_, String.toList_ofList.symm ▸ denotes⟩
        rw [Operator.text_of_read? named, String.toList_ofList]
    · rw [parse_of_not_covered laid] at read
      cases read
  · rintro ⟨l, covers, property, operator, denotes⟩
    rw [parse_of_covers covers denotes, property, operator, String.ofList_toList,
      String.ofList_toList, String.ofList_toList, Operator.read?_text]

/-- The shape of a text is looked at before its operator. -/
theorem parse_eq_error_iff {e : ConditionError} :
    parse text = .error e
      ↔ (∃ (l : Layout) (literal : List Char), l.Covers text.toList ∧ Denotes l.written literal
          ∧ (∀ operator : Operator, operator.text.toList ≠ l.operator)
          ∧ e = .unknownOperator (String.ofList l.operator) text)
        ∨ (¬ ∃ (l : Layout) (literal : List Char),
            l.Covers text.toList ∧ Denotes l.written literal) ∧ e = .malformed text := by
  constructor
  · intro refused
    by_cases laid : ∃ (l : Layout) (literal : List Char),
        l.Covers text.toList ∧ Denotes l.written literal
    · obtain ⟨l, literal, covers, denotes⟩ := laid
      rw [parse_of_covers covers denotes] at refused
      split at refused
      · rename_i unnamed
        cases refused
        refine .inl ⟨l, literal, covers, denotes, ?_, rfl⟩
        intro operator same
        apply Operator.read?_eq_none_iff.mp unnamed operator
        rw [← same, String.ofList_toList]
      · cases refused
    · rw [parse_of_not_covered laid] at refused
      cases refused
      exact .inr ⟨laid, rfl⟩
  · rintro (⟨l, literal, covers, denotes, other, rfl⟩ | ⟨unlaid, rfl⟩)
    · have unnamed : Operator.read? (String.ofList l.operator) = none := by
        rw [Operator.read?_eq_none_iff]
        intro operator same
        apply other operator
        rw [same, String.toList_ofList]
      rw [parse_of_covers covers denotes, unnamed]
    · exact parse_of_not_covered unlaid

end Expression

/-- Reading accepts exactly the texts of the form `property operator literal` and
tells the others apart: an unknown operator in a text that has the form otherwise
is named, and every other text is malformed. A text has the form in one way only. -/
theorem parse_classifies (text : String) :
    (∀ x : Expression, Expression.parse text = .ok x
        ↔ ∃ l : Layout, l.Covers text.toList ∧ l.property = x.property.toList
          ∧ l.operator = x.operator.text.toList ∧ Denotes l.written x.literal.toList)
      ∧ (∀ e : ConditionError, Expression.parse text = .error e
        ↔ (∃ (l : Layout) (literal : List Char), l.Covers text.toList ∧ Denotes l.written literal
            ∧ (∀ operator : Operator, operator.text.toList ≠ l.operator)
            ∧ e = .unknownOperator (String.ofList l.operator) text)
          ∨ (¬ ∃ (l : Layout) (literal : List Char),
              l.Covers text.toList ∧ Denotes l.written literal) ∧ e = .malformed text)
      ∧ (∀ (l l' : Layout) (literal literal' : List Char), l.Covers text.toList →
        l'.Covers text.toList → Denotes l.written literal → Denotes l'.written literal' →
        l = l' ∧ literal = literal') := by
  refine ⟨fun x => Expression.parse_eq_ok_iff, fun e => Expression.parse_eq_error_iff, ?_⟩
  intro l l' literal literal' covers covers' denotes denotes'
  obtain rfl := covers.unique covers'
  exact ⟨rfl, denotes.unique covers.nonempty denotes'⟩

/-- One lone quote behind an em space: both ends of the literal are looked at, and
there is one quote to take. -/
theorem parse_classifies_lone_quote :
    let l : Layout := ⟨[], "name".toList, ['\u2003'], "!=".toList, [' '], ['\''], []⟩
    l.Covers "name\u2003!= '".toList
      ∧ Expression.parse "name\u2003!= '" = .ok ⟨"name", .notEqual, ""⟩
      ∧ ∀ (l' : Layout) (literal' : List Char), l'.Covers "name\u2003!= '".toList →
        Denotes l'.written literal' → l' = l ∧ literal' = [] := by
  intro l
  have covers : l.Covers "name\u2003!= '".toList :=
    ⟨rfl, rfl, by decide, by decide, by decide, by decide, by decide, by decide, rfl⟩
  have denotes : Denotes l.written [] := by
    have quote : isQuote '\'' = true := by decide
    refine .quoted (.inl ⟨'\'', [], quote, rfl⟩) (.quoted quote) (.bare ?_)
    rintro ⟨start, c, -, whole⟩
    simp at whole
  obtain ⟨reads, -, unique⟩ := parse_classifies "name\u2003!= '"
  refine ⟨covers, (reads _).mpr ⟨l, covers, rfl, rfl, denotes⟩, ?_⟩
  intro l' literal' covers' denotes'
  exact unique l' l literal' [] covers' covers denotes' denotes

end SqlMapper.Condition
