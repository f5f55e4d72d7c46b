import WebClip.Fault
/-!
# Files

A file of the clipper as its owner may leave it: missing, a text, a text that may be
read but not written, or a directory in its place, which can neither be read nor written.
-/

namespace WebClip

/-- A file. -/
inductive File where
  | missing
  | text (s : String)
  | locked (s : String)
  | directory
  deriving DecidableEq, Inhabited

namespace File

/-- The text of a file that can be read. -/
def text? : File → Option String
  | text s | locked s => some s
  | _ => none

/-- Whether there is anything in the file's place. -/
def isPresent (f : File) : Bool := f ≠ missing

/-- A file after a text has been written to it. -/
def write (s : String) : File → Except Fault File
  | locked _ => .error (.crash "Permission denied")
  | directory => .error .isDirectory
  | _ => .ok (text s)

end File

end WebClip
