/-!
# Notices

What the clipper tells the person who runs it, beside its results.
-/

namespace WebClip

/-- How much a notice matters. -/
inductive Level where
  | info
  | warning
  | error

/-- One notice. -/
structure Notice where
  level : Level
  text : String

namespace Notice

/-- A notice of something done. -/
def info (text : String) : Notice := ⟨.info, text⟩

/-- A notice of something that went wrong and was worked around. -/
def warning (text : String) : Notice := ⟨.warning, text⟩

/-- A notice of something that failed. -/
def error (text : String) : Notice := ⟨.error, text⟩

end Notice

end WebClip
