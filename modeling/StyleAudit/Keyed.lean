/-!
# Mappings in key order

A mapping from texts to values as the list of its entries, whose keys increase. The order is the
order of code points, which is also the order of the encoded bytes.
-/

namespace StyleAudit

set_option autoImplicit false

structure Keyed (α : Type) where
  entries : List (String × α)
  increasing : entries.Pairwise fun a b => a.1 < b.1

namespace Keyed

variable {α : Type}

def empty : Keyed α := ⟨[], List.Pairwise.nil⟩

instance : Inhabited (Keyed α) := ⟨empty⟩

theorem ext_entries {m n : Keyed α} (h : m.entries = n.entries) : m = n := by
  cases m
  cases n
  simp_all

instance [DecidableEq α] : DecidableEq (Keyed α) := fun m n =>
  decidable_of_iff (m.entries = n.entries) ⟨ext_entries, fun h => h ▸ rfl⟩

instance [BEq α] : BEq (Keyed α) := ⟨fun m n => m.entries == n.entries⟩

instance [Repr α] : Repr (Keyed α) := ⟨fun m n => reprPrec m.entries n⟩

def insertEntry (key : String) (value : α) : List (String × α) → List (String × α)
  | [] => [(key, value)]
  | entry :: rest =>
    if key < entry.1 then (key, value) :: entry :: rest
    else if entry.1 < key then entry :: insertEntry key value rest
    else (key, value) :: rest

theorem mem_insertEntry_imp {key : String} {value : α} {entries : List (String × α)}
    {entry : String × α} (h : entry ∈ insertEntry key value entries) :
    entry = (key, value) ∨ entry ∈ entries := by
  induction entries with
  | nil => simpa [insertEntry] using h
  | cons first rest ih =>
    rw [insertEntry] at h
    split at h
    · simpa using h
    · split at h
      · rcases List.mem_cons.1 h with rfl | h
        · simp
        · rcases ih h with h | h <;> simp [h]
      · rcases List.mem_cons.1 h with h | h <;> simp [h]

theorem insertEntry_increasing (key : String) (value : α) {entries : List (String × α)}
    (h : entries.Pairwise fun a b => a.1 < b.1) :
    (insertEntry key value entries).Pairwise fun a b => a.1 < b.1 := by
  induction entries with
  | nil => simp [insertEntry]
  | cons first rest ih =>
    have ⟨below, tail⟩ := List.pairwise_cons.1 h
    rw [insertEntry]
    split
    · rename_i less
      refine List.pairwise_cons.2 ⟨?_, h⟩
      intro entry member
      rcases List.mem_cons.1 member with rfl | member
      · exact less
      · exact String.lt_trans less (below entry member)
    · split
      · rename_i more
        refine List.pairwise_cons.2 ⟨?_, ih tail⟩
        intro entry member
        rcases mem_insertEntry_imp member with rfl | member
        · exact more
        · exact below entry member
      · rename_i notLess notMore
        have same : key = first.1 :=
          String.le_antisymm (String.not_lt.1 notMore) (String.not_lt.1 notLess)
        exact List.pairwise_cons.2 ⟨fun entry member => same ▸ below entry member, tail⟩

def insert (m : Keyed α) (key : String) (value : α) : Keyed α :=
  ⟨insertEntry key value m.entries, insertEntry_increasing key value m.increasing⟩

def get? (m : Keyed α) (key : String) : Option α :=
  m.entries.lookup key

def contains (m : Keyed α) (key : String) : Bool :=
  (m.get? key).isSome

def keys (m : Keyed α) : List String :=
  m.entries.map Prod.fst

def values (m : Keyed α) : List α :=
  m.entries.map Prod.snd

def size (m : Keyed α) : Nat :=
  m.entries.length

def isEmpty (m : Keyed α) : Bool :=
  m.entries.isEmpty

/-- The mapping that a list of entries describes when later entries replace earlier ones. -/
def ofList (entries : List (String × α)) : Keyed α :=
  entries.foldl (fun m entry => m.insert entry.1 entry.2) empty

private theorem lookup_cons_entry (key other : String) (value : α) (rest : List (String × α)) :
    ((key, value) :: rest).lookup other =
      if other = key then some value else rest.lookup other := by
  by_cases e : other = key
  · simp [e]
  · have unequal : (other == key) = false := by simp [e]
    simp [List.lookup_cons, unequal, e]

theorem lookup_insertEntry (key other : String) (value : α) (entries : List (String × α)) :
    (insertEntry key value entries).lookup other =
      if other = key then some value else entries.lookup other := by
  induction entries with
  | nil => rw [insertEntry, lookup_cons_entry]
  | cons first rest ih =>
    rw [insertEntry]
    split
    · rw [lookup_cons_entry]
    · split
      · rename_i more
        rw [lookup_cons_entry, ih, lookup_cons_entry]
        by_cases e : other = first.1
        · have different : ¬ other = key := fun same =>
            String.lt_irrefl key (by rw [← e, same] at more; exact more)
          simp [e ▸ different, e]
        · simp [e]
      · rename_i notLess notMore
        have same : key = first.1 :=
          String.le_antisymm (String.not_lt.1 notMore) (String.not_lt.1 notLess)
        rw [lookup_cons_entry, lookup_cons_entry, same]
        by_cases e : other = first.1 <;> simp [e]

theorem get?_insert (m : Keyed α) (key other : String) (value : α) :
    (m.insert key value).get? other = if other = key then some value else m.get? other :=
  lookup_insertEntry key other value m.entries

end Keyed

end StyleAudit
