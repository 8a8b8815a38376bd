import StyleAudit.Json.Reader
import StyleAudit.Proofs.Json.Faults
import StyleAudit.Proofs.Json.Written

/-!
# Reading written text

The tokens of a value, met where a value must stand, hand exactly that value to the container
around it. The containers that are open count against the depth of nesting, so the room a value
needs and the height of the stack are bounded together.
-/

namespace StyleAudit.Json

set_option autoImplicit false

def HandedOver (room : Nat) (value : Json) : Prop :=
  ∀ stack : List Frame, stack.length + room ≤ deepestNesting →
    readFrom (.awaitValue stack) (valueTokens value) = put value stack

private theorem settle_within {room : Nat} {stack : List Frame} (value : Json)
    (space : stack.length + (room + 1) ≤ deepestNesting) : settleAt stack value none = value := by
  have open_containers : ¬ deepestNesting ≤ stack.length := by omega
  rw [settleAt, if_neg open_containers]

private theorem read_from_cons (state : State) (token : Token) (more : List Token) :
    readFrom state (token :: more) = readFrom (state.read token) more :=
  rfl

private theorem first_value_read (value : Json) (stack : List Frame) (more : List Token) :
    readFrom (.awaitFirstItem stack) (valueTokens value ++ more) =
      readFrom (.awaitValue (.array [] :: stack)) (valueTokens value ++ more) := by
  cases value with
  | null => rfl
  | bool b => rfl
  | number n => rfl
  | text s => rfl
  | array items => rfl
  | object members => rfl
  | unread fault => rfl
  | flawed rest => rfl

/-- Items are read alike whether or not the array might still have ended before them. -/
private theorem first_item_read (item : Json) (more : List Json) (stack : List Frame) :
    readFrom (.awaitFirstItem stack) (itemTokens (item :: more)) =
      readFrom (.awaitValue (.array [] :: stack)) (itemTokens (item :: more)) := by
  cases more with
  | nil => exact first_value_read item stack _
  | cons next more => exact first_value_read item stack _

private theorem first_member_read (member : String × Json) (more : List (String × Json))
    (stack : List Frame) :
    readFrom (.awaitFirstName stack) (memberTokens (member :: more)) =
      readFrom (.awaitName [] stack) (memberTokens (member :: more)) := by
  cases more with
  | nil => rfl
  | cons next more => rfl

private theorem items_read {room : Nat} (item : Json) (more done : List Json) (stack : List Frame)
    (space : stack.length + (room + 1) ≤ deepestNesting)
    (each : ∀ other ∈ item :: more, HandedOver room other) :
    readFrom (.awaitValue (.array done :: stack)) (itemTokens (item :: more)) =
      closeArray ((item :: more).reverse ++ done) stack := by
  have inner : stack.length + 1 + room ≤ deepestNesting := by omega
  induction more generalizing item done with
  | nil =>
      have handed := each item (by simp) (.array done :: stack) inner
      rw [itemTokens, readFrom_append, handed]
      rfl
  | cons next more ih =>
      have handed := each item (by simp) (.array done :: stack) inner
      have others := ih next (item :: done) fun other member =>
        each other (List.mem_cons_of_mem item member)
      rw [itemTokens, readFrom_append, handed, read_from_cons]
      · change readFrom (.awaitValue (.array (item :: done) :: stack)) _ = _
        rw [others, List.reverse_cons (a := item), List.append_assoc]
        rfl
      · intro none
        cases none

private theorem members_read {room : Nat} (member : String × Json)
    (more done : List (String × Json)) (stack : List Frame)
    (space : stack.length + (room + 1) ≤ deepestNesting)
    (each : ∀ other ∈ member :: more, HandedOver room other.2) :
    readFrom (.awaitName done stack) (memberTokens (member :: more)) =
      closeObject ((member :: more).reverse ++ done) stack := by
  have inner : stack.length + 1 + room ≤ deepestNesting := by omega
  induction more generalizing member done with
  | nil =>
      have handed := each member (by simp) (.member done member.1 :: stack) inner
      rw [memberTokens, List.cons_append, List.cons_append, read_from_cons, read_from_cons]
      change readFrom (.awaitValue (.member done member.1 :: stack)) _ = _
      rw [readFrom_append, handed]
      rfl
  | cons next more ih =>
      have handed := each member (by simp) (.member done member.1 :: stack) inner
      have others := ih next (member :: done) fun other found =>
        each other (List.mem_cons_of_mem member found)
      rw [memberTokens, List.cons_append, List.cons_append, read_from_cons, read_from_cons]
      · change readFrom (.awaitValue (.member done member.1 :: stack)) _ = _
        rw [readFrom_append, handed, read_from_cons]
        change readFrom (.awaitName (member :: done) stack) _ = _
        rw [others, List.reverse_cons (a := member), List.append_assoc]
        rfl
      · intro none
        cases none

theorem tokens_read {room : Nat} {value : Json} (fits : Fits room value) :
    HandedOver room value := by
  induction fits with
  | null => exact fun _ _ => rfl
  | bool b => exact fun _ _ => rfl
  | natural within => exact fun _ _ => rfl
  | text s => exact fun _ _ => rfl
  | @array room items _ each =>
      intro stack space
      rw [valueTokens, read_from_cons]
      change readFrom (.awaitFirstItem stack) _ = _
      have settled : closeArray items.reverse stack = put (.array items) stack := by
        rw [closeArray, settle_within _ space, List.reverse_reverse]
      cases items with
      | nil => exact settled
      | cons item more =>
          have inside := items_read item more [] stack space each
          rw [List.append_nil, settled] at inside
          rw [first_item_read, inside]
  | @object room members _ each =>
      intro stack space
      rw [valueTokens, read_from_cons]
      change readFrom (.awaitFirstName stack) _ = _
      have settled : closeObject members.reverse stack = put (.object members) stack := by
        rw [closeObject, settle_within _ space, List.reverse_reverse]
      cases members with
      | nil => exact settled
      | cons member more =>
          have inside := members_read member more [] stack space each
          rw [List.append_nil, settled] at inside
          rw [first_member_read, inside]

/-- A written value is read back, and nothing stands behind it. -/
theorem read_pretty {room : Nat} {value : Json} (fits : Fits room value)
    (space : room ≤ deepestNesting) : read value.pretty = ⟨value, false⟩ := by
  have apart := pretty_tokens fits 0 [] .nothing
  have handed := tokens_read fits [] (by simpa using space)
  rw [List.append_nil] at apart
  rw [read, pretty, String.toList_ofList, apart, tokens, finish, List.append_nil, handed]
  rfl

theorem no_fault {room : Nat} {value : Json} (fits : Fits room value) : value.fault? = none := by
  induction fits with
  | null => rfl
  | bool b => rfl
  | natural within => rfl
  | text s => rfl
  | array _ each => exact fault_of_array.mpr each
  | object _ each => exact fault_of_object.mpr each

theorem no_skip_fault {room : Nat} {value : Json} (fits : Fits room value) :
    value.skipFault? = none :=
  skip_fault_of_fault value (no_fault fits)

end StyleAudit.Json
