/-!
# White space, trimming, words and lines

Texts are cut and trimmed as lists of characters. White space is the wide set:
the ASCII blanks, the separators U+001C to U+001F, and the spaces of Unicode.
-/

namespace WebClip.Text

/-- A white-space character. -/
def isBlank (c : Char) : Bool :=
  let n := c.toNat
  (9 ≤ n && n ≤ 13) || (28 ≤ n && n ≤ 32) || n == 0x85 || n == 0xA0 || n == 0x1680 ||
    (0x2000 ≤ n && n ≤ 0x200A) || n == 0x2028 || n == 0x2029 || n == 0x202F || n == 0x205F ||
    n == 0x3000

/-- Drop the characters of a class from the end. -/
def dropEndWhile (p : Char → Bool) (cs : List Char) : List Char :=
  (cs.reverse.dropWhile p).reverse

/-- Drop the characters of a class from both ends. -/
def trimWhile (p : Char → Bool) (cs : List Char) : List Char :=
  dropEndWhile p (cs.dropWhile p)

/-- Drop the white space at both ends. -/
def trim (cs : List Char) : List Char := trimWhile isBlank cs

/-- A text without the white space at both ends. -/
def strip (s : String) : String := String.ofList (trim s.toList)

/-- Whether a text is empty or all white space. -/
def blank (s : String) : Bool := s.toList.all isBlank

/-- Whether one list of characters starts another. -/
def startsWith (start : List Char) (cs : List Char) : Bool := start.isPrefixOf cs

/-- The part of a text before the first occurrence of a character, and the part
after it if the character occurs. -/
def cutAt (c : Char) : List Char → List Char × Option (List Char)
  | [] => ([], none)
  | d :: rest =>
    if d == c then ([], some rest)
    else let (before, after) := cutAt c rest; (d :: before, after)

/-- The pieces between the occurrences of a character. -/
def splitOn (c : Char) (cs : List Char) : List (List Char) :=
  cs.foldr (fun d acc =>
    match acc with
    | [] => [[d]]
    | piece :: rest => if d == c then [] :: piece :: rest else (d :: piece) :: rest) [[]]

/-- The words of a text: its runs of characters that are not white space. -/
def words (cs : List Char) : List (List Char) :=
  (cs.foldr (fun d acc =>
    match acc with
    | [] => [[d]]
    | word :: rest => if isBlank d then [] :: word :: rest else (d :: word) :: rest) [[]]).filter
      (!·.isEmpty)

/-- A character that ends a line: line feed, carriage return, vertical tab, form
feed, the separators U+001C to U+001E, next line, and U+2028 and U+2029. -/
def isLineEnd (c : Char) : Bool :=
  let n := c.toNat
  (10 ≤ n && n ≤ 13) || (0x1C ≤ n && n ≤ 0x1E) || n == 0x85 || n == 0x2028 || n == 0x2029

/-- The lines of a text without their ends; carriage return and line feed together
end one line, and a last line without an end counts when it is not empty. -/
def lines : List Char → List (List Char)
  | [] => []
  | c :: rest => go [] c rest
where
  /-- The lines of `c :: rest`, with the line so far kept backwards. -/
  go (line : List Char) (c : Char) : List Char → List (List Char)
    | [] => [if isLineEnd c then line.reverse else (c :: line).reverse]
    | d :: rest =>
      if c == '\r' && d == '\n' then
        line.reverse :: match rest with
          | [] => []
          | e :: rest' => go [] e rest'
      else if isLineEnd c then line.reverse :: go [] d rest
      else go (c :: line) d rest

/-- Line feeds for every carriage return, alone or before a line feed. -/
def unifyNewlines : List Char → List Char
  | [] => []
  | '\r' :: '\n' :: rest => '\n' :: unifyNewlines rest
  | '\r' :: rest => '\n' :: unifyNewlines rest
  | c :: rest => c :: unifyNewlines rest

/-- Whether a text occurs in another. -/
def occursIn (part : List Char) : List Char → Bool
  | [] => part.isEmpty
  | c :: rest => part.isPrefixOf (c :: rest) || occursIn part rest

end WebClip.Text
