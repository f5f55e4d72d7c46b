import WebClip.Article
import WebClip.Notice
import WebClip.Property
/-!
# Field mappings

How the properties of a page are filled: each from a field of the article or with a
fixed value. A property whose value cannot be represented is left out.
-/

namespace WebClip

/-- How one property is filled. -/
structure FieldMapping where
  propertyName : Value
  propertyType : Value
  sourceField : Value := .null
  literalValue : Value := .null
  enabled : Value := .bool true

namespace FieldMapping

/-- The mapping that a record describes under a name. -/
def ofValue (name : String) (v : Value) : Except Fault FieldMapping := do
  let firstOf (a b : String) : Except Fault Value := do pure ((← Reply.get v a).orElse (← Reply.get v b))
  let propertyName := (← firstOf "property_name" "propertyName").orElse (.text name)
  let type ← Reply.get v "property_type"
  let propertyType ← if type.truthy then pure type else Reply.require v "propertyType"
  pure
    { propertyName, propertyType
      sourceField := ← firstOf "source_field" "sourceField"
      literalValue := ← Reply.getD v "literal_value" (← Reply.get v "customValue")
      enabled := ← Reply.getD v "enabled" (← Reply.getD v "isEnabled" (.bool true)) }

/-- The record of a mapping. -/
def toValue (m : FieldMapping) : Value :=
  let literal : List (String × Value) := match m.literalValue with
    | .null => []
    | v => [("literal_value", v)]
  .record ([("property_type", m.propertyType), ("enabled", m.enabled)] ++
    (if m.sourceField.truthy then [("source_field", m.sourceField)] else []) ++ literal)

end FieldMapping

/-- The mappings of a database by name, in order. -/
abbrev Mapping := List (String × FieldMapping)

/-- The properties of a page by name, in order. -/
abbrev Properties := List (String × Property)

/-- What a mapping comes to for an article. -/
inductive Filling where
  /-- There is nothing to set. -/
  | nothing
  /-- The value cannot be represented. -/
  | dropped (message : String)
  | filled (name : String) (property : Property)

namespace FieldMapping

/-- The value that a mapping takes for an article. -/
def source (article : Article) (m : FieldMapping) : Except Fault Value :=
  if m.sourceField.truthy then
    match m.sourceField with
    | .text field => .ok (article.get field)
    | _ => .error (.wrongKind "a field has a name")
  else .ok m.literalValue

/-- The name of the property that a mapping under a name fills. -/
def target (name : String) (m : FieldMapping) : Except Fault String :=
  match m.propertyName.orElse (.text name) with
  | .list _ | .record _ => .error (.wrongKind "a property has a name")
  | v => .ok v.display

/-- What a mapping under a name comes to for an article. -/
def fill (article : Article) (assets : Assets) (name : String) (m : FieldMapping) :
    Except Fault Filling := do
  if m.enabled.truthy then
    match Property.build assets m.propertyType (← m.source article) with
    | .ok (some property) => pure (.filled (← m.target name) property)
    | .ok none => pure .nothing
    | .error (.clip e) => pure (.dropped e.message)
    | .error e => throw e
  else pure .nothing

end FieldMapping

namespace Mapping

/-- What every mapping comes to, in order. -/
def fillings (article : Article) (assets : Assets) (mapping : Mapping) :
    List (String × Except Fault Filling) :=
  mapping.map fun m => (m.1, m.2.fill article assets m.1)

/-- Set what one mapping comes to. -/
def set (properties : Properties) : Filling → Properties
  | .filled name property => putKey name property properties
  | _ => properties

/-- The properties of an article's page. -/
def properties (article : Article) (assets : Assets) (mapping : Mapping) :
    Except Fault Properties := do
  pure ((← (fillings article assets mapping).mapM (·.2)).foldl set [])

/-- What is told of the properties left out, up to the first fault. -/
def notices (article : Article) (assets : Assets) (mapping : Mapping) : List Notice :=
  ((fillings article assets mapping).takeWhile fun f => f.2.isOk).filterMap fun
    | (name, .ok (.dropped message)) =>
      some (.warning ("Dropping property '" ++ name ++ "': " ++ message))
    | _ => none

end Mapping

end WebClip
