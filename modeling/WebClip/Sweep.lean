import WebClip.Image.Resolve
/-!
# Sweeps

A sweep walks the blocks under a page breadth first and moves every image that is still
at a URL of its own into an upload. An image or a listing that fails is counted and
passed over; errors that concern the whole document end the sweep early.
-/

namespace WebClip

open Act

/-- What a sweep has done. -/
structure SweepResult where
  processed : Nat := 0
  migrated : Nat := 0
  failed : Nat := 0
  visited : Nat := 0
  stoppedEarly : Bool := false
  deriving DecidableEq

/-- A sweep under way: the listings still to be made, each a block and a cursor, and the
counts so far. -/
structure Sweep where
  queue : List (Value × Value)
  result : SweepResult := {}

namespace Sweep

variable {σ τ : Type} [Clock τ]

/-- Whether there is nothing more to do. -/
def isOver (s : Sweep) : Bool := s.queue.isEmpty || s.result.stoppedEarly

/-- A sweep that an error has ended. -/
def stop (failures : Nat) (s : Sweep) : Sweep :=
  { queue := []
    result := { s.result with failed := s.result.failed + failures, stoppedEarly := true } }

/-- Move the image of a block into an upload. -/
def migrate (block : Value) : Act σ τ Unit := do
  let image ← orFault (Reply.require block "image")
  let url ← orFault do Reply.require (← Reply.require image "external") "url"
  match url with
  | .text url =>
    let id ← Image.rehost url
    let blockId ← orFault (Reply.require block "id")
    let caption ← orFault (Reply.getD image "caption" (.list []))
    let _ ← Service.update blockId [("image", .record [("type", .text "file_upload"),
      ("file_upload", .record [("id", id)]), ("caption", caption)])]
  | _ => throw (.wrongKind "a URL is a text")

/-- Visit a block: put it into the queue if it has children, and move its image. -/
def visit (block : Value) (s : Sweep) : Act σ τ Sweep := do
  let s := { s with result.visited := s.result.visited + 1 }
  let s ← if (← orFault (Reply.get block "has_children")).truthy then
      pure { s with queue := s.queue ++ [(← orFault (Reply.require block "id"), .null)] }
    else pure s
  if ← orFault (Reply.isExternalImage block) then
    let s := { s with result.processed := s.result.processed + 1 }
    match ← attempt (migrate block) with
    | .ok _ => pure { s with result.migrated := s.result.migrated + 1 }
    | .error (.clip e) =>
      if e.kind.stopsAll then
        tell (.warning ("Stopping image sweep: " ++ e.message))
        pure (s.stop 1)
      else
        let id ← orFault (Reply.require block "id")
        tell (.warning ("Could not migrate image block " ++ id.display ++ ": " ++ e.message))
        pure { s with result.failed := s.result.failed + 1 }
    | .error e => throw e
  else pure s

/-- Visit blocks until an error ends the sweep. -/
def visitAll : List Value → Sweep → Act σ τ Sweep
  | [], s => pure s
  | block :: rest, s => do
    let s ← visit block s
    if s.result.stoppedEarly then pure s else visitAll rest s

/-- Put the listing of what follows a part of some children in front of the queue. -/
def continueListing (parent reply : Value) (s : Sweep) : Except Fault Sweep := do
  if (← Reply.get reply "has_more").truthy then
    pure { s with queue := (parent, ← Reply.get reply "next_cursor") :: s.queue }
  else pure s

/-- Make one listing and visit the blocks listed. -/
def step (s : Sweep) : Act σ τ Sweep := do
  match s.queue with
  | [] => pure s
  | (parent, cursor) :: rest =>
    let s := { s with queue := rest }
    match ← attempt (Service.children parent cursor) with
    | .ok reply =>
      let blocks ← orFault do Reply.iterate (← Reply.getD reply "results" (.list []))
      let s ← visitAll blocks s
      if s.result.stoppedEarly then pure s else orFault (continueListing parent reply s)
    | .error (.clip e) =>
      if e.kind.stopsAll then
        tell (.warning ("Stopping image sweep: " ++ e.message))
        pure (s.stop 0)
      else
        tell (.warning ("Could not list children of " ++ parent.display ++ ": " ++ e.message))
        pure { s with result.failed := s.result.failed + 1 }
    | .error e => throw e

/-- Make listings until there is nothing more to do. A sweep that has made `n` of them and is not
over is left unfinished. -/
def advance : Nat → Sweep → Act σ τ Sweep
  | 0, s => if s.isOver then pure s else throw .unfinished
  | n + 1, s => if s.isOver then pure s else do advance n (← step s)

/-- Sweep the blocks under a root. -/
def run (root : Value) : Act σ τ SweepResult := do
  let s ← Sweep.advance (← read).maxListings { queue := [(root, .null)] }
  if !s.result.stoppedEarly then
    tell (.info ("Image sweep done: processed=" ++ toString s.result.processed ++ ", migrated=" ++
      toString s.result.migrated ++ ", failed=" ++ toString s.result.failed))
  pure s.result

end Sweep

end WebClip
