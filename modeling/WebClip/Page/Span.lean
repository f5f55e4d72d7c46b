/-!
# Spans

A span is a piece of text with its formatting, or an image in the midst of text.
-/

namespace WebClip.Page

/-- Formatting of text; nested formatting adds up. -/
structure Marks where
  bold : Bool := false
  italic : Bool := false
  strikethrough : Bool := false
  code : Bool := false
  deriving DecidableEq, Inhabited

/-- The formatting of either. -/
def Marks.union (a b : Marks) : Marks :=
  { bold := a.bold || b.bold, italic := a.italic || b.italic,
    strikethrough := a.strikethrough || b.strikethrough, code := a.code || b.code }

/-- A piece of text; with an image URL it is an image and its text describes the image. -/
structure Span where
  text : String
  marks : Marks := {}
  link : Option String := none
  image : Option String := none
  deriving DecidableEq, Inhabited

namespace Span

/-- A span of unformatted text. -/
def plain (text : String) : Span := { text }

/-- Whether the span is an image. -/
def isImage (s : Span) : Bool := s.image.isSome

/-- The text of the spans that are no images. -/
def plainText (spans : List Span) : String :=
  String.ofList (spans.flatMap fun s => if s.isImage then [] else s.text.toList)

end Span

end WebClip.Page
