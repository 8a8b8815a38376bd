import StyleAudit.Json.Reader
import StyleAudit.Keyed
import StyleAudit.Binary64.Shortest
import StyleAudit.Text.Quoted

/-!
# Values of a known shape

Readers for texts, whole numbers, lists, mappings, named variants and records, as they are derived
for the types of the program. A record may be given as an object, where members of other names are
skipped, or as the array of its fields in order. Of several problems in one record the first in text
order is the one reported; a field that is missing is noticed only at the end of the object.
-/

namespace StyleAudit.Json

set_option autoImplicit false

inductive Shape where
  | text
  | list
  | mapping
  | word32
  | unit
  | variantName
  | record (name : String)
  | recordOf (name : String) (fields : Nat)
  deriving Repr, DecidableEq

inductive Found where
  | null
  | bool (value : Bool)
  | number (value : Number)
  | text (value : String)
  | array
  | object
  deriving Repr, DecidableEq

inductive Mismatch where
  | missingField (name : String)
  | duplicateField (name : String)
  | unknownVariant (name : String) (known : List String)
  | wrongType (found : Found) (expected : Shape)
  | wrongValue (found : Found) (expected : Shape)
  | wrongLength (length : Nat) (expected : Shape)
  | noAlternative (choice : String)
  deriving Repr, DecidableEq

inductive ReadError where
  | fault (fault : Fault)
  | mismatch (mismatch : Mismatch)
  deriving Repr, DecidableEq

def Shape.phrase : Shape → String
  | text => "a string"
  | list => "a sequence"
  | mapping => "a map"
  | word32 => "u32"
  | unit => "unit"
  | variantName => "variant identifier"
  | record name => "struct " ++ name
  | recordOf name fields => "struct " ++ name ++ " with " ++ toString fields ++ " elements"

def Found.phrase : Found → String
  | null => "null"
  | bool true => "boolean `true`"
  | bool false => "boolean `false`"
  | number (.natural n) => "integer `" ++ toString n ++ "`"
  | number (.negative magnitude) => "integer `-" ++ toString magnitude ++ "`"
  | number (.real x) => "floating point `" ++ x.text ++ "`"
  | text value => "string " ++ Text.quote value
  | array => "sequence"
  | object => "map"

def Mismatch.message : Mismatch → String
  | missingField name => "missing field `" ++ name ++ "`"
  | duplicateField name => "duplicate field `" ++ name ++ "`"
  | unknownVariant name known =>
    "unknown variant `" ++ name ++ "`, expected one of " ++
      ", ".intercalate (known.map fun variant => "`" ++ variant ++ "`")
  | wrongType found expected => "invalid type: " ++ found.phrase ++ ", expected " ++ expected.phrase
  | wrongValue found expected =>
    "invalid value: " ++ found.phrase ++ ", expected " ++ expected.phrase
  | wrongLength length expected =>
    "invalid length " ++ toString length ++ ", expected " ++ expected.phrase
  | noAlternative choice => "data did not match any variant of untagged enum " ++ choice

/-- The refusal of a value: its fault if it could not be read, otherwise its kind. -/
def refuse (expected : Shape) : Json → ReadError
  | null => .mismatch (.wrongType .null expected)
  | bool b => .mismatch (.wrongType (.bool b) expected)
  | number n => .mismatch (.wrongType (.number n) expected)
  | text s => .mismatch (.wrongType (.text s) expected)
  | array _ => .mismatch (.wrongType .array expected)
  | object _ => .mismatch (.wrongType .object expected)
  | unread fault => .fault fault
  | flawed _ => .fault .malformed

def readText : Json → Except ReadError String
  | text s => .ok s
  | other => .error (refuse .text other)

/-- A whole number below `2 ^ 32`. -/
def readWord32 : Json → Except ReadError UInt32
  | number (.natural n) =>
    if n < 4294967296 then .ok (UInt32.ofNat n)
    else .error (.mismatch (.wrongValue (.number (.natural n)) .word32))
  | number (.negative n) => .error (.mismatch (.wrongValue (.number (.negative n)) .word32))
  | other => .error (refuse .word32 other)

def readNullable {α : Type} (read : Json → Except ReadError α) :
    Json → Except ReadError (Option α)
  | null => .ok none
  | other => (read other).map some

def readNullAs {α : Type} (default : α) (read : Json → Except ReadError α) :
    Json → Except ReadError α
  | null => .ok default
  | other => read other

def readList {α : Type} (read : Json → Except ReadError α) : Json → Except ReadError (List α)
  | array items => items.mapM read
  | other => .error (refuse .list other)

/-- A mapping; of several members of one name the last counts. -/
def readMapping {α : Type} (read : Json → Except ReadError α) :
    Json → Except ReadError (Keyed α)
  | object members =>
    (members.mapM fun member => (read member.2).map fun a => (member.1, a)).map Keyed.ofList
  | other => .error (refuse .mapping other)

/-- One of several named variants, as its name or as an object with the name over null. -/
def readVariant {α : Type} (known : List (String × α)) : Json → Except ReadError α
  | text name => ofName name
  | object ((name, value) :: rest) =>
    match name, value with
    | "", unread fault => .error (.fault fault)
    | name, value => do
      let variant ← ofName name
      match value with
      | null => pure ()
      | other => throw (refuse .unit other)
      match rest with
      | [] => return variant
      | (_, other) :: _ => throw (.fault (other.fault?.getD .malformed))
  | unread fault => .error (.fault fault)
  | _ => .error (.fault .malformed)
where
  ofName (name : String) : Except ReadError α :=
    match known.lookup name with
    | some variant => .ok variant
    | none => .error (.mismatch (.unknownVariant name (known.map Prod.fst)))

/-- The outcome of reading a part of a record, with the place of the problem. -/
def Placed (α : Type) : Type :=
  Except (Nat × ReadError) α

namespace Placed

variable {α β : Type}

def ok (a : α) : Placed α :=
  Except.ok a

def fail (place : Nat) (error : ReadError) : Placed α :=
  Except.error (place, error)

def both (f : Placed (α → β)) (a : Placed α) : Placed β :=
  match f, a with
  | .ok f, .ok a => .ok (f a)
  | .error e, .ok _ => .error e
  | .ok _, .error e => .error e
  | .error e, .error e' => .error (if e'.1 < e.1 then e' else e)

instance : Functor Placed := ⟨fun f a => Except.map f a, fun b a => Except.map (fun _ => b) a⟩

instance : Pure Placed := ⟨ok⟩

instance : Seq Placed := ⟨fun f a => both f (a ())⟩

def atPlace (place : Nat) (a : Except ReadError α) : Placed α :=
  match a with
  | .ok a => .ok a
  | .error e => .error (place, e)

def after (count : Nat) (a : Placed α) : Placed α :=
  match a with
  | .ok a => .ok a
  | .error (place, e) => .error (count + place, e)

def get (a : Placed α) : Except ReadError α :=
  match a with
  | .ok a => .ok a
  | .error (_, e) => .error e

end Placed

/-- A record about to be read: the names of its fields and where their values are. -/
inductive Fields where
  | ofObject (names : List String) (members : List (String × Json))
  | ofArray (record : String) (names : List String) (items : List Json)

def occurrences (name : String) (members : List (String × Json)) : List (Nat × Json) :=
  members.zipIdx.filterMap fun (member, place) =>
    if member.1 == name then some (place, member.2) else none

namespace Fields

variable {α : Type}

def read (fields : Fields) (name : String) (reader : Json → Except ReadError α)
    (noMember noItem : Except ReadError α) : Placed α :=
  match fields with
  | .ofObject names members =>
    match occurrences name members with
    | [] => Placed.atPlace (members.length + names.idxOf name) noMember
    | [(place, value)] => Placed.atPlace place (reader value)
    | (place, value) :: (again, _) :: _ =>
      match reader value with
      | .ok _ => Placed.fail again (.mismatch (.duplicateField name))
      | .error e => Placed.fail place e
  | .ofArray _ names items =>
    let place := names.idxOf name
    match items[place]? with
    | some value => Placed.atPlace place (reader value)
    | none => Placed.atPlace place noItem

def tooShort (fields : Fields) : ReadError :=
  match fields with
  | .ofObject _ _ => .fault .malformed
  | .ofArray record names items =>
    .mismatch (.wrongLength items.length (.recordOf record names.length))

def required (fields : Fields) (name : String) (reader : Json → Except ReadError α) : Placed α :=
  fields.read name reader (.error (.mismatch (.missingField name))) (.error fields.tooShort)

/-- A field that an object may lack. -/
def optional (fields : Fields) (name : String) (reader : Json → Except ReadError α) :
    Placed (Option α) :=
  fields.read name (readNullable reader) (.ok none) (.error fields.tooShort)

/-- A field that takes a value of its own where it is lacking. -/
def defaulted (fields : Fields) (name : String) (default : α)
    (reader : Json → Except ReadError α) : Placed α :=
  fields.read name reader (.ok default) (.ok default)

def others (fields : Fields) : List (String × Json) :=
  match fields with
  | .ofObject names members => members.filter fun member => !names.contains member.1
  | .ofArray _ _ _ => []

/-- The first fault in the parts that no field reads: members of other names, and items after the
last field, of which there may be none. -/
def leftover (fields : Fields) (memberFault? : Json → Option Fault) : Placed Unit :=
  match fields with
  | .ofObject names members =>
    let faults := members.zipIdx.filterMap fun ((name, value), place) =>
      if names.contains name then none else (memberFault? value).map fun fault => (place, fault)
    match faults with
    | [] => Placed.ok ()
    | (place, fault) :: _ => Placed.fail place (.fault fault)
  | .ofArray _ names items =>
    match items.drop names.length with
    | [] => Placed.ok ()
    | item :: _ => Placed.fail names.length (.fault (item.fault?.getD .malformed))

/-- How many places the record takes in the text, the ends of an object included. -/
def span (fields : Fields) : Nat :=
  match fields with
  | .ofObject names members => members.length + names.length
  | .ofArray _ names items => names.length + items.length

end Fields

def readRecord {α : Type} (name : String) (names : List String) (build : Fields → Placed α)
    (json : Json) : Except ReadError α :=
  let readFields (fields : Fields) : Except ReadError α :=
    ((fun a _ => a) <$> build fields <*> fields.leftover skipFault?).get
  match json with
  | object members => readFields (.ofObject names members)
  | array items => readFields (.ofArray name names items)
  | other => .error (refuse (.record name) other)

/-- A record with further parts spread among its members. It is given as an object, and every
member of it must be well formed. -/
def readSpreadRecord {α : Type} (name : String) (names : List String)
    (build : Fields → Placed α) (json : Json) : Except ReadError α :=
  match json with
  | object members =>
    let fields := Fields.ofObject names members
    ((fun a _ => a) <$> build fields <*> fields.leftover fault?).get
  | other => .error (refuse (.record name) other)

def readAs {α : Type} (reader : Json → Except ReadError α) (source : String) :
    Except ReadError α :=
  let reading := Json.read source
  match reader reading.value with
  | .error e => .error e
  | .ok a => if reading.trailing then .error (.fault .malformed) else .ok a

end StyleAudit.Json
