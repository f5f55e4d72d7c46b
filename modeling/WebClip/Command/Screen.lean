import WebClip.Notice
/-!
# The screen

What commands show: lines of text, in which square brackets set colours, and tables.
Notices are lines too.
-/

namespace WebClip

namespace Level

/-- The name of a level, filled up to eight characters. -/
def name : Level → String
  | info => "INFO    "
  | warning => "WARNING "
  | error => "ERROR   "

/-- The colour of a level. -/
def colour : Level → String
  | info => "blue"
  | warning => "yellow"
  | error => "red bold"

end Level

/-- A text in a colour. -/
def coloured (colour text : String) : String := "[" ++ colour ++ "]" ++ text ++ "[/" ++ colour ++ "]"

/-- The line that shows a notice given at a time. -/
def Notice.line (time : String) (n : Notice) : String :=
  coloured "green" time ++ " | " ++ coloured n.level.colour n.level.name ++ " | " ++ n.text

namespace Command

/-- Something shown. -/
inductive Shown where
  | line (text : String)
  | table (title : String) (columns : List String) (rows : List (List String))

namespace Shown

/-- A text without what is said in square brackets; brackets that hold no letter stay. -/
def uncoloured : List Char → List Char
  | [] => []
  | '[' :: rest => aside [] rest
  | c :: rest => c :: uncoloured rest
where
  /-- The same inside of a bracket, of which `seen` has been read, the last character first. -/
  aside (seen : List Char) : List Char → List Char
    | [] => '[' :: seen.reverse
    | ']' :: rest =>
      if seen.any Char.isAlpha then uncoloured rest
      else '[' :: seen.reverse ++ ']' :: uncoloured rest
    | c :: rest => aside (c :: seen) rest

/-- The cells of a row, each as wide as its column. -/
def padded (widths : List Nat) (row : List String) : String :=
  "  ".intercalate ((row.zip widths).map fun (cell, width) =>
    cell ++ String.ofList (List.replicate (width - cell.length) ' '))

/-- The width of each column that some rows need. -/
def widths (columns : List String) (rows : List (List String)) : List Nat :=
  rows.foldl (fun ws row => (ws.zip row).map fun (w, cell) => max w cell.length)
    (columns.map String.length)

/-- What is shown, without colours. -/
def plain : Shown → String
  | line text => String.ofList (uncoloured text.toList)
  | table title columns rows =>
    let widths := widths columns rows
    "\n".intercalate (title :: (columns :: rows).map (padded widths))

end Shown

end Command

end WebClip
