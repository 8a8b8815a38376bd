import StyleAudit.Html.Tags
import StyleAudit.Page.Basic
import StyleAudit.Proofs.Page.Marked

/-!
# What HTML makes of the text of a page

HTML reads a tag back if its name and its attributes hold nothing that ends them or is replaced in
them. It moves elements about: a paragraph ends where a block begins, a list item where the next one
does. An element settles among the elements around it if its start tag opens it there and ends none
of them. The end tag of the innermost element closes that element, and the end tag of an element
without content is passed over, but for one: `</br>` is treated as `<br>`, without attributes. So
of a page in which every element settles HTML makes that page again, with another line break behind
each one. Elements that take the elements in them out of these rules, such as tables, selections,
templates and foreign content, are taken to settle nowhere.
-/

namespace StyleAudit.Html

set_option autoImplicit false

open Page (Tree)

/-- The character belongs to any name that it stands in, and the name keeps it as it is. -/
def IsNameChar (c : Char) : Prop :=
  c ∉ [' ', '\t', '\n', '\x0c', '\r', '/', '>', '\x00'] ∧ c.toLower = c

instance : DecidablePred IsNameChar := fun _ => inferInstanceAs (Decidable (_ ∧ _))

-- Characters are also a finite type; the names are searched, not all characters.
instance (cs : List Char) : Decidable (∀ c ∈ cs, IsNameChar c) :=
  List.decidableBAll IsNameChar cs

def IsTagName (name : String) : Prop :=
  name.toList.head?.any Char.isAlpha = true ∧ ∀ c ∈ name.toList, IsNameChar c

instance : DecidablePred IsTagName := fun _ => inferInstanceAs (Decidable (_ ∧ _))

def IsAttributeName (name : String) : Prop :=
  name.toList ≠ [] ∧ (∀ c ∈ name.toList, IsNameChar c) ∧ '=' ∉ name.toList.tail

instance : DecidablePred IsAttributeName := fun _ => inferInstanceAs (Decidable (_ ∧ _))

/-- An attribute with a name and a value that are read as they are written. -/
def IsAttribute (entry : String × String) : Prop :=
  IsAttributeName entry.1 ∧ '\x00' ∉ entry.2.toList ∧ '\r' ∉ entry.2.toList

instance : DecidablePred IsAttribute := fun _ => inferInstanceAs (Decidable (_ ∧ _))

/-- Elements whose content is a text up to their own end tag. -/
def textTags : List String :=
  escapableTextTags ++ rawTextTags

mutual

/-- Every tag and every attribute is read as it is written, and what can hold only text holds no
elements. -/
def Legible : Tree → Prop
  | .element tag attributes children =>
    IsTagName (Text.asciiLower tag) ∧ Text.asciiLower tag ≠ "plaintext" ∧
      (∀ entry ∈ attributes, IsAttribute entry) ∧
      (Text.asciiLower tag ∈ textTags → ∀ child ∈ children, child.isElement = false) ∧
      AllLegible children
  | .text _ => True

def AllLegible : List Tree → Prop
  | [] => True
  | tree :: rest => Legible tree ∧ AllLegible rest

end

/-- Whether one of the tags is open and none of the boundaries inside it. -/
def reaches (boundaries tags : List String) : List String → Bool
  | [] => false
  | tag :: rest => tags.contains tag || (!boundaries.contains tag && reaches boundaries tags rest)

/-- Whether a new list item of one of the tags would end one that is open. -/
def meetsItem (tags around : List String) : Bool :=
  (around.find? fun tag => tags.contains tag ||
    (specialTags.contains tag && !(["address", "div", "p"].contains tag))).any tags.contains

def paragraphEndTags : List String :=
  ["form", "li", "dd", "dt", "hr", "p", "xmp"] ++ headingTags ++ containerTags

/-- Elements within which, or within elements of their kind, other rules hold. -/
def unrulyTags : List String :=
  ["table", "select", "option", "optgroup", "template", "svg", "math", "image", "nobr", "rb", "rp",
    "rt", "rtc", "search", "isindex", "menuitem"]

/-- Elements that have no place in a body, or of which this depends on more than what is open. -/
def unsettledTags : List String :=
  ["html", "body", "plaintext"] ++ strayTags ++ unrulyTags

def emptyTags : List String :=
  voidTags ++ headVoidTags

/-- The start tag opens an element among the open ones, given innermost first, and ends none of
them. -/
structure Settles (around : List String) (tag : String) : Prop where
  placed : tag ∉ unsettledTags
  paragraph : tag ∈ paragraphEndTags → reaches buttonScopeTags ["p"] around = false
  heading : tag ∈ headingTags → around.head?.any headingTags.contains = false
  form : tag = "form" → "form" ∉ around
  item : tag = "li" → meetsItem ["li"] around = false
  definition : tag ∈ ["dd", "dt"] → meetsItem ["dd", "dt"] around = false
  link : tag = "a" → "a" ∉ around
  button : tag = "button" → reaches scopeTags ["button"] around = false

theorem Settles.not_structural {around : List String} {tag : String}
    (settles : Settles around tag) : tag ∉ strayTags ∧ tag ≠ "html" ∧ tag ≠ "body" ∧
      tag ≠ "table" ∧ tag ≠ "option" ∧ tag ≠ "optgroup" := by
  have placed := settles.placed
  simp only [unsettledTags, unrulyTags, List.mem_append, List.mem_cons, not_or] at placed
  obtain ⟨⟨⟨no_html, no_body, _⟩, no_stray⟩, no_table, _, no_option, no_group, _⟩ := placed
  exact ⟨no_stray, no_html, no_body, no_table, no_option, no_group⟩

mutual

/-- Every element stays where it is put, and none stands in an element without content. -/
def Fitting (around : List String) : Tree → Prop
  | .element tag _ children =>
    Settles around (Text.asciiLower tag) ∧
      (Text.asciiLower tag ∈ emptyTags ++ textTags → children = []) ∧
      AllFitting (Text.asciiLower tag :: around) children
  | .text _ => False

def AllFitting (around : List String) : List Tree → Prop
  | [] => True
  | tree :: rest => Fitting around tree ∧ AllFitting around rest

end

/-- An element that belongs into a head, without content. -/
def IsMetadata : Tree → Prop
  | .element tag _ children =>
    Text.asciiLower tag ∈ headVoidTags ++ "noscript" :: headTextTags ∧ children = []
  | .text _ => False

/-- A root with a head and a body in which every element stays where it is put. -/
def IsPage : Tree → Prop
  | .element root _ [.element head _ metadata, .element body _ content] =>
    Text.asciiLower root = "html" ∧ Text.asciiLower head = "head" ∧
      Text.asciiLower body = "body" ∧ (∀ tree ∈ metadata, IsMetadata tree) ∧
      AllFitting ["body", "html"] content
  | _ => False

/-- What the end tag of an element is read as, beyond closing it. -/
def echo (tag : String) : List Tree :=
  if tag = "br" then [.element "br" [] []] else []

mutual

/-- The tree that the text of a tree is read as. -/
def reread : Tree → Tree
  | .element tag attributes children => .element tag attributes (rereadAll children)
  | .text content => .text content

def rereadAll : List Tree → List Tree
  | [] => []
  | tree :: rest => reread tree :: (echo tree.tag ++ rereadAll rest)

end

/-- The parser reads the text of a numbered page as the HTML standard has it. The numbers keep
formatting elements apart, which otherwise would not all be taken up again. -/
structure ReadsPages (parse : Page.Parser) : Prop where
  reads : ∀ page : Tree, page.NamesDistinct → Legible page → IsPage page →
    parse (page.marked 0).written = reread (page.marked 0)

end StyleAudit.Html
