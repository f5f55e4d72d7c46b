import WebClip.Markdown.Token
import WebClip.Text.Blank
import WebClip.Text.Punctuation
/-!
# Pieces of inline content

What a reader of inline content holds while it does not know yet which emphasis marks
and brackets pair up. A bare URL and struck text look different inside a link, so a
finished piece says what it is outside of one and what it is inside.
-/

namespace WebClip.Markdown

open WebClip.Text

/-- A run of emphasis marks: how many are left of how many written, and which side it may be. -/
structure Delimiter where
  mark : Char
  count : Nat
  length : Nat
  opens : Bool
  closes : Bool

namespace Delimiter

/-- A run of marks between two characters. Marks open before text and close behind it;
underscores do neither within a word. -/
def ofRun (mark : Char) (count : Nat) (before after : Option Char) : Delimiter :=
  let opensText := !after.all isBlank &&
    (!after.any isPunctuation || before.all isBlank || before.any isPunctuation)
  let closesText := !before.all isBlank &&
    (!before.any isPunctuation || after.all isBlank || after.any isPunctuation)
  if mark == '_' then
    { mark, count, length := count
      opens := opensText && (!closesText || before.any isPunctuation)
      closes := closesText && (!opensText || after.any isPunctuation) }
  else { mark, count, length := count, opens := opensText, closes := closesText }

/-- Whether a run may open what another closes. Where one of them could be on either side,
their lengths together are no multiple of three unless both are. -/
def pairsWith (opener closer : Delimiter) : Bool :=
  opener.mark == closer.mark && opener.opens &&
    (!(opener.closes || closer.opens) || (opener.length + closer.length) % 3 ≠ 0 ||
      (opener.length % 3 = 0 && closer.length % 3 = 0))

end Delimiter

/-- A piece of inline content. -/
inductive Piece where
  | done (free linked : Inline)
  | delimiter (d : Delimiter)
  /-- A bracket that may start a link or an image, and the text behind it. Once a link has
  been found behind it, the bracket of a link is active no more. -/
  | bracket (image active : Bool) (source : List Char)

namespace Piece

/-- A piece that looks the same inside a link. -/
def plain (i : Inline) : Piece := .done i i

/-- A piece of text. -/
def text (cs : List Char) : Piece := plain (.text (String.ofList cs))

/-- What a bracket looks like as text. -/
def bracketText (image : Bool) : String := if image then "![" else "["

/-- What a piece has become; marks and brackets without a partner are text. -/
def toInline (linked : Bool) : Piece → Inline
  | .done free inside => if linked then inside else free
  | .delimiter d => .text (String.ofList (List.replicate d.count d.mark))
  | .bracket image _ _ => .text (bracketText image)

/-- Pieces with something around them. -/
def around (wrap : List Inline → Inline) (pieces : List Piece) : Piece :=
  .done (wrap (pieces.map (toInline false))) (wrap (pieces.map (toInline true)))

/-! ## Emphasis -/

/-- The nearest run that a closing one pairs with: what stands behind it, the run itself, and
what stands before it. Pieces are listed newest first. -/
def splitAtOpener? (closer : Delimiter) : List Piece → Option (List Piece × Delimiter × List Piece)
  | [] => none
  | p :: rest =>
    let further := (splitAtOpener? closer rest).map fun (behind, opener, before) =>
      (p :: behind, opener, before)
    match p with
    | .delimiter d => if d.pairsWith closer then some ([], d, rest) else further
    | _ => further

/-- Put a run behind pieces, pairing its marks as far as they close something; two marks
make strong emphasis where both sides have them. -/
def close : Nat → Delimiter → List Piece → List Piece
  | 0, closer, pieces => .delimiter closer :: pieces
  | n + 1, closer, pieces =>
    match splitAtOpener? closer pieces with
    | none => .delimiter closer :: pieces
    | some (behind, opener, before) =>
      let size := if opener.count ≥ 2 && closer.count ≥ 2 then 2 else 1
      let before :=
        if opener.count > size then
          .delimiter { opener with count := opener.count - size } :: before
        else before
      let pieces := around (if size = 2 then .strong else .emphasis) behind.reverse :: before
      if closer.count > size then close n { closer with count := closer.count - size } pieces
      else pieces

/-- Put a piece behind others. -/
def push (pieces : List Piece) (p : Piece) : List Piece :=
  match p with
  | .delimiter d => if d.closes then close d.count d pieces else p :: pieces
  | _ => p :: pieces

/-- Pieces, oldest first, with their emphasis marks paired. -/
def emphasized (pieces : List Piece) : List Piece := (pieces.foldl push []).reverse

/-! ## Brackets -/

/-- The newest bracket: what stands behind it, whether it is an image's, whether it is active,
its source, and what stands before it. -/
def splitAtBracket? : List Piece → Option (List Piece × Bool × Bool × List Char × List Piece)
  | [] => none
  | .bracket image active source :: rest => some ([], image, active, source, rest)
  | p :: rest => (splitAtBracket? rest).map fun (behind, found) => (p :: behind, found)

/-- A piece after a link has been found behind it. -/
def deactivate : Piece → Piece
  | .bracket false _ source => .bracket false false source
  | p => p

/-- Whether a piece is an open bracket. -/
def isBracket : Piece → Bool
  | .bracket .. => true
  | _ => false

/-- Put a link or an image around pieces given oldest first. -/
def target (image : Bool) (url : String) (pieces : List Piece) : Piece :=
  let pieces := emphasized pieces
  if image then plain (.image (some url) (pieces.map (toInline false)))
  else plain (.link (some url) (pieces.map (toInline true)))

end Piece

end WebClip.Markdown
