import StyleAudit.Json.Token

/-!
# Reading JSON text

The tokens of a text put together to a value. The arrays and objects that are still open form a
stack. A token that does not fit ends the reading: an `unread` leaf takes its place and every open
container is closed behind it.
-/

namespace StyleAudit.Json

set_option autoImplicit false

/-- A container that waits for a value, with what it holds so far in reverse. -/
inductive Frame where
  | array (done : List Json)
  | member (done : List (String × Json)) (name : String)

inductive State where
  | awaitValue (stack : List Frame)
  | awaitFirstItem (stack : List Frame)
  | afterItem (done : List Json) (stack : List Frame)
  | awaitFirstName (stack : List Frame)
  | awaitName (done : List (String × Json)) (stack : List Frame)
  | awaitColon (done : List (String × Json)) (name : String) (stack : List Frame)
  | afterMember (done : List (String × Json)) (stack : List Frame)
  | complete (value : Json)
  | trailing (value : Json)
  | broken (value : Json)

def settleAt (stack : List Frame) (value : Json) (rest : Option Fault) : Json :=
  if deepestNesting ≤ stack.length then .flawed rest else value

def put (value : Json) : List Frame → State
  | [] => .complete value
  | .array done :: stack => .afterItem (value :: done) stack
  | .member done name :: stack => .afterMember ((name, value) :: done) stack

def closeAll (fault : Fault) : Json → List Frame → Json
  | value, [] => value
  | value, .array done :: stack =>
    closeAll fault (settleAt stack (.array (value :: done).reverse) (some fault)) stack
  | value, .member done name :: stack =>
    closeAll fault (settleAt stack (.object ((name, value) :: done).reverse) (some fault)) stack

def breakValue (fault : Fault) (stack : List Frame) : State :=
  .broken (closeAll fault (.unread fault) stack)

def State.break (fault : Fault) : State → State
  | .awaitValue stack => breakValue fault stack
  | .awaitFirstItem stack => breakValue fault (.array [] :: stack)
  | .afterItem done stack => breakValue fault (.array done :: stack)
  | .awaitFirstName stack => breakValue fault (.member [] "" :: stack)
  | .awaitName done stack => breakValue fault (.member done "" :: stack)
  | .awaitColon done name stack => breakValue fault (.member done name :: stack)
  | .afterMember done stack => breakValue fault (.member done "" :: stack)
  | .complete value => .trailing value
  | .trailing value => .trailing value
  | .broken value => .broken value

def readValue (state : State) (stack : List Frame) : Token → State
  | .openArray => .awaitFirstItem stack
  | .openObject => .awaitFirstName stack
  | .scalar value => put value stack
  | .text (some value) => put (.text value) stack
  | .text none => put (.flawed none) stack
  | .bad fault => state.break fault
  | .badText fault => state.break fault
  | .closeArray => state.break .malformed
  | .closeObject => state.break .malformed
  | .comma => state.break .malformed
  | .colon => state.break .malformed

def closeArray (done : List Json) (stack : List Frame) : State :=
  put (settleAt stack (.array done.reverse) none) stack

def closeObject (done : List (String × Json)) (stack : List Frame) : State :=
  put (settleAt stack (.object done.reverse) none) stack

def State.read (state : State) (token : Token) : State :=
  match state, token with
  | .awaitValue stack, token => readValue state stack token
  | .awaitFirstItem stack, .closeArray => closeArray [] stack
  | .awaitFirstItem stack, token => readValue state (.array [] :: stack) token
  | .afterItem done stack, .comma => .awaitValue (.array done :: stack)
  | .afterItem done stack, .closeArray => closeArray done stack
  | .awaitFirstName stack, .closeObject => closeObject [] stack
  | .awaitFirstName stack, .text (some name) => .awaitColon [] name stack
  | .awaitName done stack, .text (some name) => .awaitColon done name stack
  | .awaitFirstName _, .badText fault => state.break fault
  | .awaitName _ _, .badText fault => state.break fault
  | .awaitColon done name stack, .colon => .awaitValue (.member done name :: stack)
  | .afterMember done stack, .comma => .awaitName done stack
  | .afterMember done stack, .closeObject => closeObject done stack
  | state, _ => state.break .malformed

/-- A value and whether anything but blanks follows it. -/
structure Reading where
  value : Json
  trailing : Bool

def State.reading (state : State) : Reading :=
  match state with
  | .complete value => ⟨value, false⟩
  | .trailing value => ⟨value, true⟩
  | .broken value => ⟨value, false⟩
  | state =>
    match state.break .truncated with
    | .broken value => ⟨value, false⟩
    | _ => ⟨.unread .truncated, false⟩

def readFrom (state : State) (tokens : List Token) : State :=
  tokens.foldl State.read state

def read (text : String) : Reading :=
  (readFrom (.awaitValue []) (tokens .between text.toList)).reading

theorem readFrom_append (state : State) (first second : List Token) :
    readFrom state (first ++ second) = readFrom (readFrom state first) second := by
  simp [readFrom, List.foldl_append]

end StyleAudit.Json
