import StyleAudit.Page.ElementMap
import StyleAudit.Technique.Json

/-!
# Element maps as JSON

The JSON form of `MappedDom`, which is that of its elements alone, and its reader `from_json`.
-/

namespace StyleAudit

set_option autoImplicit false

open Json (ReadError readRecord readText readNullable readMapping)

def jsonOfMapping {α : Type} (json : α → Json) (mapping : Keyed α) : Json :=
  .object (mapping.entries.map fun entry => (entry.1, json entry.2))

namespace Element

def json (e : Element) : Json :=
  .object ([("name", .text e.tag), ("attributes", jsonOfMapping jsonOfText e.attributes),
      ("styles", jsonOfMapping jsonOfText e.styles)] ++
    optionalMember "parent" (e.parent.map jsonOfText))

def read : Json → Except ReadError Element :=
  readRecord "MappedElement" ["name", "attributes", "styles", "parent"] fun fields =>
    Element.mk <$> fields.required "name" readText
      <*> fields.defaulted "attributes" .empty (readMapping readText)
      <*> fields.defaulted "styles" .empty (readMapping readText)
      <*> fields.defaulted "parent" none (readNullable readText)

end Element

namespace ElementMap

def json (map : ElementMap) : Json :=
  jsonOfMapping Element.json map.elements

def read (json : Json) : Except ReadError ElementMap :=
  (readMapping Element.read json).map ElementMap.mk

def ofJsonText (text : String) : Except ReadError ElementMap :=
  Json.readAs read text

end ElementMap

end StyleAudit
