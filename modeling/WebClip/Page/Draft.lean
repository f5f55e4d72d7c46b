import WebClip.Chunk
import WebClip.Page.Link
import WebClip.Property
/-!
# Drafts

Everything that one page is created from, and the request that creates it. A request
takes so many blocks at most; the others are left for later.
-/

namespace WebClip.Page

/-- A page before it is created. -/
structure Draft where
  properties : List (String × Property) := []
  blocks : List Value
  icon : Option Asset := none
  cover : Option Asset := none

namespace Draft

/-- The file object of an icon or a cover, if the asset can be one. -/
def file? (asset : Option Asset) : Option Value :=
  match asset with
  | some a =>
    if a.isResolved && (a.isUploaded || a.value.any isEmbeddable) then some a.toFile else none
  | none => none

/-- The blocks that the create request takes. -/
def children (d : Draft) : List Value := d.blocks.take maxBatch

/-- The blocks that are left for later. -/
def overflow (d : Draft) : List Value := d.blocks.drop maxBatch

/-- The request that creates the page under a parent. -/
def request (parent : Value) (d : Draft) : Value :=
  let optional (key : String) (v : Option Value) : List (String × Value) :=
    match v with
    | some v => [(key, v)]
    | none => []
  .record ([("properties", .record (d.properties.map fun p => (p.1, p.2.toValue))),
      ("children", .list d.children)] ++
    optional "parent" (if parent.truthy then some parent else none) ++
    optional "icon" (file? d.icon) ++ optional "cover" (file? d.cover))

end Draft

end WebClip.Page
