import StyleAudit.Html.Token
import StyleAudit.Page.Tree

/-!
# HTML documents

The element tree of HTML source. Every document has a root, a head and a body, whether the source
names them or not. Some start tags end elements that are still open, some end tags do nothing, and
formatting that was cut off by the end of a paragraph is taken up again in what follows. Elements
of tables have no meaning outside of one and are passed over.
-/

namespace StyleAudit.Html

set_option autoImplicit false

open Page (Tree)

/-- An open element with its content so far, last first. Its key tells it from all others. -/
structure Frame where
  key : Nat
  tag : String
  attributes : List (String × String)
  content : List Tree

namespace Frame

def tree (f : Frame) : Tree :=
  .element f.tag f.attributes f.content.reverse

def add (f : Frame) (tree : Tree) : Frame :=
  { f with content := tree :: f.content }

def addAttributes (f : Frame) (attributes : List (String × String)) : Frame :=
  let added := attributes.filter fun entry => (f.attributes.lookup entry.1).isNone
  { f with attributes := f.attributes ++ added }

def isSpecial (f : Frame) : Bool :=
  specialTags.contains f.tag

end Frame

/-- Closes the innermost of the open elements. The root stays open. -/
def closeInnermost : List Frame → List Frame
  | inner :: outer :: rest => outer.add inner.tree :: rest
  | stack => stack

def closeTimes : Nat → List Frame → List Frame
  | 0, stack => stack
  | n + 1, stack => closeTimes n (closeInnermost stack)

/-- Closes everything up to the innermost element with one of the tags, that element included. -/
def closeThrough (tags : List String) (stack : List Frame) : List Frame :=
  match stack.findIdx? fun f => tags.contains f.tag with
  | some n => closeTimes (n + 1) stack
  | none => stack

/-- An element with one of the tags is open and no boundary stands inside it. -/
def inScope (boundaries tags : List String) : List Frame → Bool
  | [] => false
  | f :: rest => tags.contains f.tag || (!boundaries.contains f.tag && inScope boundaries tags rest)

def addTree (tree : Tree) : List Frame → List Frame
  | inner :: rest => inner.add tree :: rest
  | [] => []

structure Formatting where
  key : Nat
  tag : String
  attributes : List (String × String)

namespace Formatting

def isOpenIn (e : Formatting) (stack : List Frame) : Bool :=
  stack.any fun f => f.key == e.key

def looksLike (e : Formatting) (tag : String) (attributes : List (String × String)) : Bool :=
  e.tag == tag && e.attributes.length == attributes.length &&
    e.attributes.all fun entry => attributes.contains entry

end Formatting

inductive Mode where
  | beforeRoot
  | beforeHead
  | inHead
  | afterHead
  | inBody
  | afterBody
  deriving DecidableEq

/-- A document under construction: the open elements, innermost first, and the formatting in
force, last first, where `none` is a boundary. -/
structure Builder where
  mode : Mode
  stack : List Frame
  formatting : List (Option Formatting)
  form : Option Nat
  nextKey : Nat

namespace Builder

def start : Builder := ⟨.beforeRoot, [], [], none, 0⟩

def onStack (f : List Frame → List Frame) (b : Builder) : Builder :=
  { b with stack := f b.stack }

def setMode (mode : Mode) (b : Builder) : Builder :=
  { b with mode := mode }

def openElement (tag : String) (attributes : List (String × String)) (b : Builder) : Builder :=
  { b with stack := ⟨b.nextKey, tag, attributes, []⟩ :: b.stack, nextKey := b.nextKey + 1 }

def addElement (tag : String) (attributes : List (String × String)) (content : List Char)
    (b : Builder) : Builder :=
  let children := if content.isEmpty then [] else [Tree.text (String.ofList content)]
  b.onStack (addTree (.element tag attributes children))

def addText (content : List Char) (b : Builder) : Builder :=
  if content.isEmpty then b else b.onStack (addTree (.text (String.ofList content)))

def closeParagraph (b : Builder) : Builder :=
  if inScope buttonScopeTags ["p"] b.stack then b.onStack (closeThrough ["p"]) else b

def currentFormatting (b : Builder) : List Formatting :=
  (b.formatting.takeWhile Option.isSome).filterMap id

def dropFormatting (key : Nat) (b : Builder) : Builder :=
  { b with formatting := b.formatting.filter fun e => e.map Formatting.key != some key }

/-- Opens the formatting elements again that are in force but no longer open. -/
def takeUpFormatting (b : Builder) : Builder :=
  let isPending (e : Option Formatting) : Bool :=
    match e with
    | some e => !e.isOpenIn b.stack
    | none => false
  let (b', entries) := (b.formatting.takeWhile isPending).foldr
    (fun e (state : Builder × List (Option Formatting)) =>
      match e with
      | some e =>
        (state.1.openElement e.tag e.attributes, some { e with key := state.1.nextKey } :: state.2)
      | none => state)
    (b, b.formatting.dropWhile isPending)
  { b' with formatting := entries }

def dropLast (test : Option Formatting → Bool) (entries : List (Option Formatting)) :
    List (Option Formatting) :=
  (entries.reverse.eraseP test).reverse

/-- Opens a formatting element and puts it in force. Of elements that look alike at most three are
in force at a time. -/
def openFormatting (tag : String) (attributes : List (String × String)) (b : Builder) : Builder :=
  let entry : Formatting := ⟨b.nextKey, tag, attributes⟩
  let looksAlike (e : Option Formatting) : Bool := e.any fun e => e.looksLike tag attributes
  let current := b.formatting.takeWhile Option.isSome
  let outer := b.formatting.dropWhile Option.isSome
  let current :=
    if 3 ≤ (current.filter looksAlike).length then dropLast looksAlike current else current
  { b.openElement tag attributes with formatting := some entry :: current ++ outer }

/-- Ends the innermost element of a tag, unless the document is structured in between. -/
def endOrdinary (tag : String) (b : Builder) : Builder :=
  match b.stack.findIdx? fun f => f.tag == tag || f.isSpecial with
  | some n =>
    match b.stack[n]? with
    | some f => if f.tag == tag then b.onStack (closeTimes (n + 1)) else b
    | none => b
  | none => b

def nest : List Frame → List Tree → List Tree
  | [], inner => inner
  | f :: rest, inner => nest rest [(inner.foldl Frame.add f).tree]

/-- The elements between a block and the formatting element around it, taken up anew inside the
block's new surroundings: only formatting in force, and of that the three innermost. With them come
the formatting in force, with the new keys, and the next free key. -/
def renew (formatting : List (Option Formatting)) (nextKey : Nat) :
    Nat → List Frame → List Frame × List (Option Formatting) × Nat
  | _, [] => ([], formatting, nextKey)
  | count, f :: rest =>
    let entryOf (e : Option Formatting) : Bool := e.map Formatting.key == some f.key
    if !formatting.any entryOf then renew formatting nextKey (count + 1) rest
    else if 3 ≤ count then renew (formatting.filter fun e => !entryOf e) nextKey (count + 1) rest
    else
      let renamed := formatting.map fun e =>
        if entryOf e then e.map fun e => { e with key := nextKey } else e
      let (frames, formatting, next) := renew renamed (nextKey + 1) (count + 1) rest
      (⟨nextKey, f.tag, f.attributes, []⟩ :: frames, formatting, next)

def insertAfter (key : Nat) (entry : Formatting) :
    List (Option Formatting) → List (Option Formatting)
  | [] => []
  | e :: rest =>
    if e.map Formatting.key == some key then some entry :: e :: rest
    else e :: insertAfter key entry rest

/-- Moves a block out of a formatting element that ends inside it: the formatting element and what
is between the two are closed without the block; the block follows them with its content in a new
formatting element. -/
def splitFormatting (b : Builder) (e : Formatting) (inner : List Frame) (block : Frame)
    (between : List Frame) (format parent : Frame) (outer : List Frame) : Builder :=
  let parent := (nest (between ++ [format]) []).foldl Frame.add parent
  let (renewed, formatting, nextKey) := renew b.formatting b.nextKey 0 between
  let entry : Formatting := { e with key := nextKey }
  let inForce :=
    match renewed with
    | [] => insertAfter e.key entry formatting
    | first :: _ => insertAfter first.key entry formatting
  let newFormat : Frame := ⟨nextKey, format.tag, format.attributes, block.content⟩
  { b with
    stack := inner ++ newFormat :: { block with content := [] } :: renewed ++ parent :: outer
    formatting := inForce.filter fun other => other.map Formatting.key != some e.key
    nextKey := nextKey + 1 }

def endFormatting (tag : String) : Nat → Builder → Builder
  | 0, b => b
  | rounds + 1, b =>
    match b.currentFormatting.find? fun e => e.tag == tag with
    | none => b.endOrdinary tag
    | some e =>
      match b.stack.findIdx? fun f => f.key == e.key with
      | none => b.dropFormatting e.key
      | some n =>
        if !inScope scopeTags [tag] b.stack then b
        else
          let inside := b.stack.take n
          match inside.reverse.findIdx? Frame.isSpecial, b.stack.drop n with
          | some m, format :: parent :: outer =>
            let between := (inside.reverse.take m).reverse
            match (inside.reverse.drop m) with
            | block :: inner =>
              endFormatting tag rounds
                (b.splitFormatting e inner.reverse block between format parent outer)
            | [] => b
          | _, _ => (b.onStack (closeTimes (n + 1))).dropFormatting e.key

def endFormattingTag (tag : String) (b : Builder) : Builder :=
  match b.stack with
  | f :: _ =>
    if f.tag == tag && !(b.currentFormatting.any fun e => e.key == f.key) then
      b.onStack closeInnermost
    else endFormatting tag 8 b
  | [] => b

def addAttributesTo (tag : String) (attributes : List (String × String)) (b : Builder) : Builder :=
  b.onStack fun stack =>
    stack.map fun f => if f.tag == tag then f.addAttributes attributes else f

def closeItem (tags : List String) (b : Builder) : Builder :=
  let stops (f : Frame) : Bool :=
    tags.contains f.tag || (f.isSpecial && !(["address", "div", "p"].contains f.tag))
  match b.stack.findIdx? stops with
  | some n =>
    match b.stack[n]? with
    | some f => if tags.contains f.tag then b.onStack (closeTimes (n + 1)) else b
    | none => b
  | none => b

def closeIfInnermost (tags : List String) (b : Builder) : Builder :=
  match b.stack with
  | f :: _ => if tags.contains f.tag then b.onStack closeInnermost else b
  | [] => b

def startLink (attributes : List (String × String)) (b : Builder) : Builder :=
  let b : Builder :=
    match b.currentFormatting.find? fun e => e.tag == "a" with
    | none => b
    | some e =>
      let ended := (b.endFormattingTag "a").dropFormatting e.key
      match ended.stack.findIdx? fun (f : Frame) => f.key == e.key with
      | some n => ended.onStack (closeTimes (n + 1))
      | none => ended
  b.takeUpFormatting.openFormatting "a" attributes

def startInBody (tag : String) (attributes : List (String × String)) (b : Builder) : Builder :=
  if strayTags.contains tag then b
  else if tag == "html" || tag == "body" then b.addAttributesTo tag attributes
  else if headVoidTags.contains tag then b.addElement tag attributes []
  else if headingTags.contains tag then
    (b.closeParagraph.closeIfInnermost headingTags).openElement tag attributes
  else if tag == "form" then
    if b.form.isSome then b
    else { b.closeParagraph.openElement tag attributes with form := some b.nextKey }
  else if tag == "li" then ((b.closeItem ["li"]).closeParagraph).openElement tag attributes
  else if tag == "dd" || tag == "dt" then
    ((b.closeItem ["dd", "dt"]).closeParagraph).openElement tag attributes
  else if tag == "hr" then b.closeParagraph.addElement tag attributes []
  else if tag == "p" || tag == "table" || containerTags.contains tag then
    b.closeParagraph.openElement tag attributes
  else if tag == "a" then b.startLink attributes
  else if formattingTags.contains tag then b.takeUpFormatting.openFormatting tag attributes
  else if voidTags.contains tag then b.takeUpFormatting.addElement tag attributes []
  else if tag == "button" then
    let b := if inScope scopeTags ["button"] b.stack then b.onStack (closeThrough ["button"]) else b
    b.takeUpFormatting.openElement tag attributes
  else if boundaryTags.contains tag then
    let b := b.takeUpFormatting.openElement tag attributes
    { b with formatting := none :: b.formatting }
  else if tag == "option" || tag == "optgroup" then
    (b.closeIfInnermost ["option"]).takeUpFormatting.openElement tag attributes
  else b.takeUpFormatting.openElement tag attributes

def endScoped (boundaries tags : List String) (b : Builder) : Builder :=
  if inScope boundaries tags b.stack then b.onStack (closeThrough tags) else b

def endBoundary (tag : String) (b : Builder) : Builder :=
  if inScope scopeTags [tag] b.stack then
    { b.onStack (closeThrough [tag]) with
      formatting := (b.formatting.dropWhile Option.isSome).drop 1 }
  else b

def endInBody (tag : String) (b : Builder) : Builder :=
  if tag == "body" || tag == "html" then
    if inScope scopeTags ["body"] b.stack then b.setMode .afterBody else b
  else if tag == "p" then
    if inScope buttonScopeTags ["p"] b.stack then b.onStack (closeThrough ["p"])
    else b.addElement "p" [] []
  else if tag == "br" then b.takeUpFormatting.addElement "br" [] []
  else if tag == "li" then b.endScoped itemScopeTags ["li"]
  else if headingTags.contains tag then b.endScoped scopeTags headingTags
  else if tag == "form" then
    if b.form.isSome then { b.endScoped scopeTags ["form"] with form := none } else b
  else if formattingTags.contains tag then b.endFormattingTag tag
  else if boundaryTags.contains tag then b.endBoundary tag
  else if tag == "dd" || tag == "dt" || tag == "button" || containerTags.contains tag then
    b.endScoped scopeTags [tag]
  else b.endOrdinary tag

def textInBody (content : List Char) (b : Builder) : Builder :=
  let content := content.filter fun c => c != '\x00'
  if content.isEmpty then b else b.takeUpFormatting.addText content

def textElementInBody (tag : String) (attributes : List (String × String)) (content : List Char)
    (b : Builder) : Builder :=
  if tag == "xmp" then b.closeParagraph.takeUpFormatting.addElement tag attributes content
  else if tag == "plaintext" then b.closeParagraph.addElement tag attributes content
  else b.addElement tag attributes content

def readInBody (token : Token) (b : Builder) : Builder :=
  match token with
  | .startTag tag attributes => b.startInBody tag attributes
  | .endTag tag => b.endInBody tag
  | .textElement tag attributes content => b.textElementInBody tag attributes content
  | .text content => b.textInBody content

def structuralEndTags : List String := ["html", "body", "br"]

def addToHead (tag : String) (attributes : List (String × String)) (content : List Char)
    (b : Builder) : Builder :=
  let children := if content.isEmpty then [] else [Tree.text (String.ofList content)]
  let added := Tree.element tag attributes children
  b.onStack fun stack =>
    match stack with
    | root :: rest =>
      { root with content := root.content.map fun tree =>
          match tree with
          | .element "head" given inside => .element "head" given (inside ++ [added])
          | other => other } :: rest
    | [] => []

def openBody (b : Builder) : Builder :=
  (b.openElement "body" []).setMode .inBody

def readAfterHead (token : Token) (b : Builder) : Builder :=
  match token with
  | .text content =>
    let rest := content.dropWhile isSpace
    let b := b.addText (content.takeWhile isSpace)
    if rest.isEmpty then b else b.openBody.textInBody rest
  | .startTag tag attributes =>
    if tag == "html" then b.addAttributesTo tag attributes
    else if tag == "body" then (b.openElement tag attributes).setMode .inBody
    else if headVoidTags.contains tag then b.addToHead tag attributes []
    else if tag == "head" then b
    else b.openBody.readInBody token
  | .textElement tag attributes content =>
    if headTextTags.contains tag then b.addToHead tag attributes content
    else b.openBody.readInBody token
  | .endTag tag => if structuralEndTags.contains tag then b.openBody.readInBody token else b

def leaveHead (b : Builder) : Builder :=
  (b.onStack closeInnermost).setMode .afterHead

def readInHead (token : Token) (b : Builder) : Builder :=
  match token with
  | .text content =>
    let rest := content.dropWhile isSpace
    let b := b.addText (content.takeWhile isSpace)
    if rest.isEmpty then b else b.leaveHead.readAfterHead (.text rest)
  | .startTag tag attributes =>
    if tag == "html" then b.addAttributesTo tag attributes
    else if headVoidTags.contains tag then b.addElement tag attributes []
    else if tag == "head" then b
    else b.leaveHead.readAfterHead token
  | .textElement tag attributes content =>
    if tag == "noscript" || headTextTags.contains tag then b.addElement tag attributes content
    else b.leaveHead.readAfterHead token
  | .endTag tag =>
    if tag == "head" then b.leaveHead
    else if structuralEndTags.contains tag then b.leaveHead.readAfterHead token
    else b

def openHead (attributes : List (String × String)) (b : Builder) : Builder :=
  (b.openElement "head" attributes).setMode .inHead

def readBeforeHead (token : Token) (b : Builder) : Builder :=
  match token with
  | .text content =>
    let rest := content.dropWhile isSpace
    if rest.isEmpty then b else (b.openHead []).readInHead (.text rest)
  | .startTag tag attributes =>
    if tag == "html" then b.addAttributesTo tag attributes
    else if tag == "head" then b.openHead attributes
    else (b.openHead []).readInHead token
  | .textElement _ _ _ => (b.openHead []).readInHead token
  | .endTag tag =>
    if tag == "head" || structuralEndTags.contains tag then (b.openHead []).readInHead token else b

def openRoot (attributes : List (String × String)) (b : Builder) : Builder :=
  (b.openElement "html" attributes).setMode .beforeHead

def readBeforeRoot (token : Token) (b : Builder) : Builder :=
  match token with
  | .text content =>
    let rest := content.dropWhile isSpace
    if rest.isEmpty then b else (b.openRoot []).readBeforeHead (.text rest)
  | .startTag tag attributes =>
    if tag == "html" then b.openRoot attributes else (b.openRoot []).readBeforeHead token
  | .textElement _ _ _ => (b.openRoot []).readBeforeHead token
  | .endTag tag =>
    if tag == "head" || structuralEndTags.contains tag then (b.openRoot []).readBeforeHead token
    else b

/-- What follows the end of the body goes into the body all the same. -/
def readAfterBody (token : Token) (b : Builder) : Builder :=
  match token with
  | .text content =>
    if content.all isSpace then b.textInBody content else (b.setMode .inBody).textInBody content
  | .startTag tag attributes =>
    if tag == "html" then b.addAttributesTo tag attributes
    else (b.setMode .inBody).readInBody token
  | .endTag tag => if tag == "html" then b else (b.setMode .inBody).readInBody token
  | .textElement _ _ _ => (b.setMode .inBody).readInBody token

def read (b : Builder) (token : Token) : Builder :=
  match b.mode with
  | .beforeRoot => b.readBeforeRoot token
  | .beforeHead => b.readBeforeHead token
  | .inHead => b.readInHead token
  | .afterHead => b.readAfterHead token
  | .inBody => b.readInBody token
  | .afterBody => b.readAfterBody token

/-- Opens what the source did not get to, so that no document lacks a head or a body. -/
def complete (b : Builder) : Builder :=
  match b.mode with
  | .beforeRoot => ((b.openRoot []).openHead []).leaveHead.openBody
  | .beforeHead => (b.openHead []).leaveHead.openBody
  | .inHead => b.leaveHead.openBody
  | .afterHead => b.openBody
  | .inBody => b
  | .afterBody => b

def tree (b : Builder) : Tree :=
  match closeTimes b.stack.length b.stack with
  | root :: _ => root.tree
  | [] => .element "html" [] []

end Builder

def parse (source : String) : Tree :=
  ((tokens source).foldl Builder.read .start).complete.tree

end StyleAudit.Html
