import StyleAudit.Page.ElementMap
import StyleAudit.Text.Search

/-!
# Element maps as markup

Transcription of `to_markup` with `write_element` and `escape_attribute`. An element map is written
as nested markup in which every element bears its id. Children stand inside their mapped parent,
siblings and roots in document order. An element whose parents go round in a circle has no place in
a tree and is left out.
-/

namespace StyleAudit

set_option autoImplicit false

namespace Page

def idAttribute : String := "data-css-techniques-id"

def escapeChar (c : Char) : List Char :=
  match c with
  | '&' => "&amp;".toList
  | '"' => "&quot;".toList
  | '<' => "&lt;".toList
  | c => [c]

/-- A value as it stands between double quotes. The ampersands come first, since what is written for
the other two begins with one. -/
def escape (value : String) : String :=
  let ampersands := Text.replaceChar '&' "&amp;".toList value.toList
  let quotes := Text.replaceChar '"' "&quot;".toList ampersands
  String.ofList (Text.replaceChar '<' "&lt;".toList quotes)

/-- One replacement after the other comes to the same as all at once. -/
theorem escape_eq_each (value : String) :
    escape value = String.ofList (value.toList.flatMap escapeChar) := by
  have each (c : Char) : ((if c = '&' then "&amp;".toList else [c]).flatMap fun d =>
      (if d = '"' then "&quot;".toList else [d]).flatMap fun e =>
        if e = '<' then "&lt;".toList else [e]) = escapeChar c := by
    by_cases ampersand : c = '&'
    · rw [ampersand]
      decide
    · by_cases quote : c = '"'
      · rw [quote]
        decide
      · by_cases bracket : c = '<'
        · rw [bracket]
          decide
        · rw [if_neg ampersand, List.flatMap_singleton, if_neg quote, List.flatMap_singleton,
            if_neg bracket]
          unfold escapeChar
          split
          · exact absurd rfl ampersand
          · exact absurd rfl quote
          · exact absurd rfl bracket
          · rfl
  simp only [escape, Text.replaceChar, List.flatMap_assoc, each]

def attributeText (name value : String) : String :=
  name ++ "=\"" ++ escape value ++ "\""

end Page

namespace ElementMap

def mappedParent? (map : ElementMap) (id : String) : Option String :=
  (map.parent? id).filter map.contains

def parents (map : ElementMap) : List (String × Option String) :=
  map.elements.keys.map fun id => (id, map.mappedParent? id)

/-- The elements with a given parent, or those without one, in document order. -/
def childrenIn (parents : List (String × Option String)) (parent : Option String) : List String :=
  Page.inDocumentOrder ((parents.filter fun entry => entry.2 == parent).map Prod.fst)

def openTag (id : String) (element : Element) : String :=
  let attributes := element.attributes.entries.filter fun entry => entry.1 != Page.idAttribute
  "<" ++ element.tag ++ " " ++ Page.attributeText Page.idAttribute id ++
    String.join (attributes.map fun entry => " " ++ Page.attributeText entry.1 entry.2) ++ ">"

def closeTag (element : Element) : String :=
  "</" ++ element.tag ++ ">"

def markupOf (map : ElementMap) (parents : List (String × Option String)) : Nat → String → String
  | 0, _ => ""
  | depth + 1, id =>
    match map.get? id with
    | none => ""
    | some element =>
      openTag id element ++
        String.join ((childrenIn parents (some id)).map (map.markupOf parents depth)) ++
        closeTag element

/-- The markup of the whole map. What hangs from a root visits no element twice, so no element is
deeper than there are elements. -/
def markup (map : ElementMap) : String :=
  let parents := map.parents
  String.join ((childrenIn parents none).map (map.markupOf parents map.size))

end ElementMap

end StyleAudit
