import StyleAudit.Technique.Basic

/-!
# Foreground and background colors that go together

Transcription of `ColorPairingTechnique`. An element with a foreground color is to have a background
color, its own or that of an ancestor; the nearest one, which `nearest_background` searches for, is
paired with it. A background that no foreground is paired with fails. Elements come in document
order, so a background may be paired before it is met itself.
-/

namespace StyleAudit.ColorPairs

set_option autoImplicit false

def descriptor : Descriptor where
  name :=
    "Failure of Success Criterion 1.4.3, 1.4.6 and 1.4.8 due to specifying foreground colors " ++
    "without specifying background colors or vice versa"
  code := "QW-CSS-T7"
  mapping := "F24"
  description :=
    "Users with vision loss or cognitive, language and learning challenges often prefer " ++
    "specific foreground and background color combinations. Many user agents let users " ++
    "choose the colors they would like to see without overriding all author-specified " ++
    "styles, which only works when authors set foreground and background colors together."
  target := ⟨"*", ["color", "background-color"]⟩
  criteria := [
    ⟨"1.4.3", .aa, .perceivable,
      "https://www.w3.org/WAI/WCAG21/Understanding/contrast-minimum"⟩,
    ⟨"1.4.6", .aaa, .perceivable,
      "https://www.w3.org/WAI/WCAG21/Understanding/contrast-enhanced"⟩,
    ⟨"1.4.8", .aaa, .perceivable,
      "https://www.w3.org/WAI/WCAG21/Understanding/visual-presentation"⟩
  ]
  related := ["C23", "C25"]
  url := some "https://www.w3.org/WAI/WCAG21/Techniques/failures/F24"

def foregroundProperties : List String := ["color", "text"]

def backgroundProperties : List String := ["background-color", "bgcolor"]

def firstStyle? (map : ElementMap) (id : String) (properties : List String) :
    Option (String × String) :=
  properties.findSome? fun property => (map.style? id property).map fun value => (property, value)

def foreground? (map : ElementMap) (id : String) : Option (String × String) :=
  firstStyle? map id foregroundProperties

def background? (map : ElementMap) (id : String) : Option (String × String) :=
  firstStyle? map id backgroundProperties

/-- What the search along the parents of an element comes to. -/
inductive Search where
  | found (id : String)
  | nowhere
  | loop (id : String)
  deriving Repr, DecidableEq

/-- Searches for a background from an element upwards, past the elements already visited. The
search ends at an element without a mapped parent. -/
def searchUpwards (map : ElementMap) : Nat → List String → String → Search
  | 0, _, _ => .nowhere
  | steps + 1, visited, id =>
    if visited.contains id then .loop id
    else if (background? map id).isSome then .found id
    else
      match map.parent? id with
      | some parent =>
        if map.contains parent then searchUpwards map steps (id :: visited) parent else .nowhere
      | none => .nowhere

/-- The nearest element with a background, the element itself included. A search visits no element
twice, so there are at most as many steps as elements and one more to notice a loop. -/
def nearestBackground (map : ElementMap) (id : String) : Search :=
  searchUpwards map (map.size + 1) [] id

/-- The findings so far, and the backgrounds met or paired so far with whether they are paired. -/
structure Pairing where
  findings : List Finding
  backgrounds : List (String × Bool)

namespace Pairing

def start : Pairing := ⟨[], []⟩

def knows (p : Pairing) (id : String) : Bool :=
  p.backgrounds.any fun entry => entry.1 == id

def meetBackground (p : Pairing) (id : String) : Pairing :=
  if p.knows id then p else { p with backgrounds := p.backgrounds ++ [(id, false)] }

def pair (p : Pairing) (id : String) : Pairing :=
  if p.knows id then
    { p with backgrounds := p.backgrounds.map fun entry =>
        if entry.1 == id then (id, true) else entry }
  else { p with backgrounds := p.backgrounds ++ [(id, true)] }

def record (p : Pairing) (finding : Finding) : Pairing :=
  { p with findings := p.findings ++ [finding] }

end Pairing

def evidence (map : ElementMap) (id property value : String) : Evidence :=
  .ofStyle ((map.tag? id).getD "") property value

def pairedFinding : Finding :=
  .bare .passed "Element has color and background-color set"

def lonelyForeground (map : ElementMap) (id property value : String) : Finding :=
  (Finding.bare .failed "Element has color set but not background-color").withEvidence
    (evidence map id property value)

def lonelyBackground (map : ElementMap) (id : String) : Finding :=
  let bare := Finding.bare .failed "Element has background-color set but not color"
  match background? map id with
  | some (property, value) => bare.withEvidence (evidence map id property value)
  | none => bare

/-- Visits one element. A loop among its parents ends the run. -/
def visit (map : ElementMap) (p : Pairing) (id : String) : Except (Pairing × String) Pairing :=
  match foreground? map id with
  | some (property, value) =>
    match nearestBackground map id with
    | .found background => .ok ((p.record pairedFinding).pair background)
    | .nowhere => .ok (p.record (lonelyForeground map id property value))
    | .loop element =>
      .error (p, "parent chain of element " ++ id ++ " loops at " ++ element)
  | none => .ok (if (background? map id).isSome then p.meetBackground id else p)

def unpairedFindings (map : ElementMap) (p : Pairing) : List Finding :=
  (p.backgrounds.filter fun entry => !entry.2).map fun entry => lonelyBackground map entry.1

def evaluatePage (map : ElementMap) : Evaluation :=
  match map.ids.foldlM (visit map) Pairing.start with
  | .ok p => ⟨p.findings ++ unpairedFindings map p, .completed⟩
  | .error (p, text) => ⟨p.findings, .fault text⟩

def technique : Technique where
  descriptor := descriptor
  evaluate := fun _ input =>
    match input.page with
    | some map => evaluatePage map
    | none => ⟨[], .completed⟩

end StyleAudit.ColorPairs
