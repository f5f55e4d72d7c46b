import WebClip.Url.Parts
/-!
# Links

Which URLs a page takes: as the target of a link an absolute web or mail address, as
the place of an image a web address, and neither longer than the limit.
-/

namespace WebClip.Page

/-- The longest text of one run. -/
def maxTextLength : Nat := 2000

/-- The longest URL. -/
def maxUrlLength : Nat := 2000

/-- Whether a URL can be the target of a link. -/
def isLink (url : String) : Bool :=
  !url.isEmpty && url.length ≤ maxUrlLength &&
    match Url.read [] url.toList with
    | .error _ => false
    | .ok parts =>
      if parts.scheme == "mailto".toList then !parts.path.isEmpty
      else (parts.scheme == "http".toList || parts.scheme == "https".toList) &&
        !parts.authority.isEmpty

/-- Whether an image can be shown from a URL. -/
def isEmbeddable (url : String) : Bool :=
  !url.isEmpty && url.length ≤ maxUrlLength &&
    match Url.read [] url.toList with
    | .error _ => false
    | .ok parts => parts.scheme == "http".toList || parts.scheme == "https".toList

end WebClip.Page
