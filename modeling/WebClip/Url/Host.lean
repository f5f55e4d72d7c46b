import WebClip.Html.Reference
import WebClip.Text.Blank
/-!
# Bracketed hosts

A host in brackets is an address of eight groups of up to four hexadecimal digits,
where two colons side by side stand for the groups left out and the last two groups
may be written as four decimal numbers. An address of a later version starts with a v.
-/

namespace WebClip.Url

open WebClip.Text WebClip.Html

/-- A number of an address with four of them: at most 255, without leading zeros. -/
def isOctet (cs : List Char) : Bool :=
  !cs.isEmpty && cs.all Char.isDigit && cs.length ≤ 3 && (cs.head? != some '0' || cs.length = 1) &&
    numberIn 10 cs ≤ 255

/-- Four decimal numbers with points between them. -/
def isFourNumbers (cs : List Char) : Bool :=
  let parts := splitOn '.' cs
  parts.length = 4 && parts.all isOctet

/-- A group of one to four hexadecimal digits. -/
def isGroup (cs : List Char) : Bool :=
  !cs.isEmpty && cs.length ≤ 4 && cs.all isHexDigit

/-- The groups of an address, its four decimal numbers counted as two. -/
def groups (cs : List Char) : Option (List (List Char)) :=
  let parts := splitOn ':' cs
  let last := parts.getLastD []
  if parts.length < 3 then none
  else if last.contains '.' then
    if isFourNumbers last then some (parts.dropLast ++ [['0'], ['0']]) else none
  else some parts

/-- Whether the groups make an address: eight of them, or fewer around one gap. -/
def isGrouped (parts : List (List Char)) : Bool :=
  let inner := (parts.drop 1).dropLast
  match inner.findIdx? List.isEmpty with
  | none => parts.length = 8 && parts.all isGroup
  | some i =>
    let before := parts.take (i + 1)
    let after := parts.drop (i + 2)
    let before := if before.head? == some [] then before.drop 1 else before
    let after := if after.getLast? == some [] then after.dropLast else after
    let openStart := parts.head? == some [] && !before.isEmpty
    let openEnd := parts.getLast? == some [] && !after.isEmpty
    parts.length ≤ 9 && !openStart && !openEnd && before.all isGroup && after.all isGroup &&
      before.length + after.length < 8

/-- An address of groups, with a zone behind a percent sign if need be. -/
def isGroupAddress (cs : List Char) : Bool :=
  let (address, zone) := cutAt '%' cs
  (match zone with | none => true | some z => !z.isEmpty && !z.contains '%') &&
    match groups address with
    | some parts => isGrouped parts
    | none => false

/-- An address of a later version: a v, hexadecimal digits, a point and something more. -/
def isLaterAddress (cs : List Char) : Bool :=
  let digits := (cs.drop 1).takeWhile isHexDigit
  let behind := cs.drop (1 + digits.length)
  !digits.isEmpty && behind.head? == some '.' && behind.length > 1

end WebClip.Url
