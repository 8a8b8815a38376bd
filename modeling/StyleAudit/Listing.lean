import StyleAudit.Roster

/-!
# Listings

A roster as the command `List` prints it: one line for each technique, enabled or not, with its
names and its criteria.
-/

namespace StyleAudit

set_option autoImplicit false

def padRight (width : Nat) (text : String) : String :=
  text ++ String.ofList (List.replicate (width - text.length) ' ')

def Criterion.phrase (c : Criterion) : String :=
  c.name ++ " " ++ c.level.name

def Entry.mark (e : Entry) : String :=
  if e.enabled then "+" else "-"

def Entry.line (e : Entry) : String :=
  e.mark ++ " " ++ padRight 10 e.code ++ " " ++ padRight 8 e.mapping ++ " " ++ e.descriptor.name ++
    "  [" ++ ", ".intercalate (e.descriptor.criteria.map Criterion.phrase) ++ "]"

def Roster.listing (r : Roster) : String :=
  String.join (r.entries.map fun e => e.line ++ "\n")

end StyleAudit
