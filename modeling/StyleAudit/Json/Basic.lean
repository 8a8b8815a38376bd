import StyleAudit.Binary64.Basic

/-!
# JSON values

A JSON value as far as its text could be read. A well-formed text has a value made of the six
kinds of JSON. Where a text stops being JSON the value has an `unread` leaf, the last one in text
order, so that what stands before the break can still be looked at first.
-/

namespace StyleAudit

set_option autoImplicit false

inductive Fault where
  | malformed
  | truncated
  deriving Repr, DecidableEq

/-- A number of a JSON text: a whole number that fits in 64 bits, or a double. -/
inductive Number where
  | natural (n : Nat)
  | negative (magnitude : Nat)
  | real (x : Binary64)
  deriving Repr, DecidableEq

/-- A JSON value. `flawed` is a value that is well formed by the grammar but that nothing can hold:
a number too large for a double, a text with half a surrogate pair, or nesting that is too deep;
its text may end in a fault of its own. -/
inductive Json where
  | null
  | bool (value : Bool)
  | number (value : Number)
  | text (value : String)
  | array (items : List Json)
  | object (members : List (String × Json))
  | unread (fault : Fault)
  | flawed (rest : Option Fault)
  deriving Repr, BEq, Inhabited

namespace Json

/-- How deep arrays and objects may be nested in each other. -/
def deepestNesting : Nat := 127

mutual

/-- The first fault in text order that keeps the value from being held. -/
def fault? : Json → Option Fault
  | null => none
  | bool _ => none
  | number _ => none
  | text _ => none
  | array items => itemsFault? items
  | object members => membersFault? members
  | unread fault => some fault
  | flawed _ => some .malformed

def itemsFault? : List Json → Option Fault
  | [] => none
  | item :: rest => item.fault?.or (itemsFault? rest)

def membersFault? : List (String × Json) → Option Fault
  | [] => none
  | (_, value) :: rest => value.fault?.or (membersFault? rest)

end

mutual

/-- The first fault that even skipping over the value meets. -/
def skipFault? : Json → Option Fault
  | null => none
  | bool _ => none
  | number _ => none
  | text _ => none
  | array items => itemsSkipFault? items
  | object members => membersSkipFault? members
  | unread fault => some fault
  | flawed rest => rest

def itemsSkipFault? : List Json → Option Fault
  | [] => none
  | item :: rest => item.skipFault?.or (itemsSkipFault? rest)

def membersSkipFault? : List (String × Json) → Option Fault
  | [] => none
  | (_, value) :: rest => value.skipFault?.or (membersSkipFault? rest)

end

/-- The last member of a name, as in a mapping where a later entry replaces an earlier one. -/
def lastMember? (name : String) (members : List (String × Json)) : Option Json :=
  (members.reverse.find? fun member => member.1 == name).map Prod.snd

mutual

/-- The value in which each object keeps only the last member of each name. -/
def settled : Json → Json
  | array items => array (settledItems items)
  | object members => object (settledMembers members)
  | null => null
  | bool b => bool b
  | number n => number n
  | text s => text s
  | unread fault => unread fault
  | flawed rest => flawed rest

def settledItems : List Json → List Json
  | [] => []
  | item :: rest => item.settled :: settledItems rest

def settledMembers : List (String × Json) → List (String × Json)
  | [] => []
  | (name, value) :: rest =>
    if rest.any fun member => member.1 == name then settledMembers rest
    else (name, value.settled) :: settledMembers rest

end

theorem settledItems_eq_map (items : List Json) : settledItems items = items.map settled := by
  induction items with
  | nil => rfl
  | cons item rest ih => simp [settledItems, ih]

end Json

end StyleAudit
