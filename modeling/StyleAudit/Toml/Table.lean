/-!
# TOML tables

Tables that are put together entry by entry. No key is given twice, and a table is extended only in
the way it was begun: by headers, or by dotted keys below one header.
-/

namespace StyleAudit.Toml

set_option autoImplicit false

/-- How a table came about. An implied table is one that was only gone through. -/
inductive Origin where
  | braces
  | header
  | implied
  | dotted
  deriving Repr, DecidableEq

inductive Value where
  | text (content : String)
  | plain
  | array (items : List Value)
  | table (origin : Origin) (entries : List (String × Value))
  | tables (items : List (List (String × Value)))
  deriving Inhabited

abbrev Entries : Type := List (String × Value)

def setEntry (key : String) (value : Value) : Entries → Entries
  | [] => [(key, value)]
  | entry :: rest =>
    if entry.1 == key then (key, value) :: rest else entry :: setEntry key value rest

/-- Changes the table that a value is, or the last of the tables it is, if it may be entered. -/
def Value.enter? (mayEnter : Origin → Bool) (change : Origin → Entries → Option Entries) :
    Value → Option Value
  | .table origin entries =>
    if mayEnter origin then (change origin entries).map (Value.table origin) else none
  | .tables items =>
    match items.reverse with
    | last :: before => do
      let last ← change .header last
      return .tables (last :: before).reverse
    | [] => none
  | _ => none

/-- Changes the table at the end of a path. Tables that are not there yet come about on the way. -/
def enterPath? (mayEnter : Origin → Bool) (newOrigin : Origin)
    (change : Origin → Entries → Option Entries) : List String → Origin → Entries → Option Entries
  | [], origin, entries => change origin entries
  | key :: path, _, entries => do
    let value := (entries.lookup key).getD (.table newOrigin [])
    let value ← value.enter? mayEnter (enterPath? mayEnter newOrigin change path)
    return setEntry key value entries

/-- Headers go through every table but those in braces. -/
def headerMayEnter (origin : Origin) : Bool :=
  origin != .braces

/-- Dotted keys go through tables that have no header of their own. -/
def dottedMayEnter (origin : Origin) : Bool :=
  origin == .implied || origin == .dotted

/-- Adds a key with its value. Below a dotted key, the table must be one of dotted keys. -/
def putNew? (dotted : Bool) (key : String) (value : Value) (origin : Origin)
    (entries : Entries) : Option Entries :=
  if dotted != (origin == .dotted) then none
  else if (entries.lookup key).isSome then none
  else some (entries ++ [(key, value)])

def addDotted? (path : List String) (key : String) (value : Value) (origin : Origin)
    (entries : Entries) : Option Entries :=
  enterPath? dottedMayEnter .dotted (putNew? (!path.isEmpty) key value) path origin entries

/-- Begins the table of a header. It may have been implied before. -/
def beginTable? (key : String) (_ : Origin) (entries : Entries) : Option Entries :=
  match entries.lookup key with
  | none => some (entries ++ [(key, .table .header [])])
  | some (.table .implied inside) => some (setEntry key (.table .header inside) entries)
  | some _ => none

def beginNext? (key : String) (_ : Origin) (entries : Entries) : Option Entries :=
  match entries.lookup key with
  | none => some (entries ++ [(key, .tables [[]])])
  | some (.tables items) => some (setEntry key (.tables (items ++ [[]])) entries)
  | some _ => none

end StyleAudit.Toml
