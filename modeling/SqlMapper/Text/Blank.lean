/-
Module: SqlMapper.Text.Blank
Purpose: The blank characters of text and of markup, and trimming.
Main exports: isBlank, isMarkupBlank, trimStart, trimEnd, trim, isBlankText
-/

namespace SqlMapper.Text

/-!
Two classes of blank characters are in use. Text is trimmed and cut into words
at the characters with the Unicode property `White_Space`; between the parts
of a tag only the four blanks of XML count, so that a no-break space or a form
feed belongs to the name beside it.
-/

/-- The characters with the Unicode property `White_Space`. -/
def isBlank (c : Char) : Bool :=
  let n := c.toNat
  (0x09 ≤ n && n ≤ 0x0d) || n == 0x20 || n == 0x85 || n == 0xa0 || n == 0x1680
    || (0x2000 ≤ n && n ≤ 0x200a) || n == 0x2028 || n == 0x2029 || n == 0x202f
    || n == 0x205f || n == 0x3000

/-- The blanks between the parts of a tag: space, tab, line feed and carriage
return. -/
def isMarkupBlank (c : Char) : Bool :=
  c == ' ' || c == '\t' || c == '\n' || c == '\r'

/-- The text without the blanks at its start. -/
def trimStart (cs : List Char) : List Char := cs.dropWhile isBlank

/-- The text without the blanks at its end. -/
def trimEnd (cs : List Char) : List Char := (cs.reverse.dropWhile isBlank).reverse

/-- The text without the blanks at either end. -/
def trim (cs : List Char) : List Char := trimEnd (trimStart cs)

/-- A text of blanks alone, the empty text included. -/
def isBlankText (cs : List Char) : Bool := cs.all isBlank

end SqlMapper.Text
