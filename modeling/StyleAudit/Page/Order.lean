import StyleAudit.Binary64.Literal

/-!
# Document order of element ids

The comparison `document_order`. Ids that are numbers come first, by value. All others follow, by
their text.
-/

namespace StyleAudit.Page

set_option autoImplicit false

def largestPosition : Nat := 18446744073709551615

/-- The position an id stands for: digits, with at most one plus sign before them, whose value
fits in 64 bits. -/
def position? (id : String) : Option Nat :=
  let digits :=
    match id.toList with
    | '+' :: digits => digits
    | digits => digits
  (Binary64.natural? digits).filter fun n => n ≤ largestPosition

def notAfter (a b : String) : Bool :=
  match position? a, position? b with
  | some m, some n => m ≤ n
  | some _, none => true
  | none, some _ => false
  | none, none => a ≤ b

/-- Ids in document order. Ids of one value keep the order they came in. -/
def inDocumentOrder (ids : List String) : List String :=
  ids.mergeSort notAfter

/-- Drops every id that equals the one before it. -/
def dropRepeats : List String → List String
  | [] => []
  | [id] => [id]
  | id :: next :: rest =>
    if id = next then dropRepeats (next :: rest) else id :: dropRepeats (next :: rest)

theorem notAfter_total (a b : String) : (notAfter a b || notAfter b a) = true := by
  unfold notAfter
  cases position? a <;> cases position? b <;> simp <;> first | omega | exact String.le_total a b

theorem notAfter_trans (a b c : String) (ab : notAfter a b = true) (bc : notAfter b c = true) :
    notAfter a c = true := by
  unfold notAfter at *
  cases ha : position? a <;> cases hb : position? b <;> cases hc : position? c <;> simp_all
  · exact String.le_trans ab bc
  · omega

end StyleAudit.Page
