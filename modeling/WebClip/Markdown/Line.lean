/-!
# Lines

A line on the way through the containers it stands in. Indentation is counted in
columns, with tab stops every four; a tab of which only some columns have been used
leaves the others as spaces.
-/

namespace WebClip.Markdown

/-- What is left of a line: spaces of a tab in use, then the text from a column on. -/
structure Line where
  spaces : Nat := 0
  text : List Char
  column : Nat := 0

namespace Line

/-- White space within a line. -/
def isSpace (c : Char) : Bool := c == ' ' || c == '\t'

/-- The columns of white space at the start of a text that stands at a column. -/
def widthFrom (column : Nat) : List Char → Nat
  | [] => 0
  | c :: rest =>
    if c == ' ' then 1 + widthFrom (column + 1) rest
    else if c == '\t' then
      let width := 4 - column % 4
      width + widthFrom (column + width) rest
    else 0

/-- The indentation in columns. -/
def indent (l : Line) : Nat := l.spaces + widthFrom (l.column + l.spaces) l.text

/-- Whether nothing but white space is left. -/
def isBlank (l : Line) : Bool :=
  l.text.all fun c => isSpace c || c == '\x0b' || c == '\x0c'

/-- The text behind the indentation. -/
def body (l : Line) : List Char := l.text.dropWhile isSpace

/-- All that is left, with the spaces of a tab in use. -/
def content (l : Line) : List Char := List.replicate l.spaces ' ' ++ l.text

/-- Use up one column of white space. -/
def stepColumn (l : Line) : Line :=
  if l.spaces > 0 then { l with spaces := l.spaces - 1, column := l.column + 1 }
  else match l.text with
    | c :: rest =>
      if c == ' ' then { l with text := rest, column := l.column + 1 }
      else if c == '\t' then
        { spaces := 3 - l.column % 4, text := rest, column := l.column + 1 }
      else l
    | [] => l

/-- Use up columns of white space, as far as there are any. -/
def skipColumns : Nat → Line → Line
  | 0, l => l
  | n + 1, l => skipColumns n l.stepColumn

/-- The line behind its indentation. -/
def skipIndent (l : Line) : Line :=
  { spaces := 0, text := l.body, column := l.column + l.indent }

/-- The line behind `n` characters that are no white space. -/
def skipChars (n : Nat) (l : Line) : Line :=
  { spaces := 0, text := l.text.drop n, column := l.column + n }

end Line

end WebClip.Markdown
