/-!
# Tables keyed by name

A name table lists its entries in strictly ascending order of their names, so that a listing is
sorted and no name occurs twice. Directories keep their children in such lists, and `NameMap`
packages a list with its order. Names compare by code point, which is also the order of their
UTF-8 bytes.
-/

namespace Workbench
namespace Entries

variable {α : Type}

/-- The value filed under `name`. -/
def find? (name : String) : List (String × α) → Option α
  | [] => none
  | (key, value) :: rest => if key = name then some value else find? name rest

/-- Files `value` under `name` in its place, replacing what was there. -/
def insert (name : String) (value : α) : List (String × α) → List (String × α)
  | [] => [(name, value)]
  | (key, old) :: rest =>
    if name < key then (name, value) :: (key, old) :: rest
    else if name = key then (name, value) :: rest
    else (key, old) :: insert name value rest

/-- Names strictly ascend. -/
def Ascending (entries : List (String × α)) : Prop :=
  entries.Pairwise fun left right => left.1 < right.1

theorem find?_insert_self (name : String) (value : α) (entries : List (String × α)) :
    find? name (insert name value entries) = some value := by
  induction entries with
  | nil => simp [insert, find?]
  | cons entry rest ih =>
    obtain ⟨key, old⟩ := entry
    rw [insert]
    split
    · simp [find?]
    · split
      · simp [find?]
      · rename_i unequal
        simp [find?, Ne.symm unequal, ih]

theorem find?_insert_of_ne {name other : String} (distinct : other ≠ name) (value : α)
    (entries : List (String × α)) :
    find? other (insert name value entries) = find? other entries := by
  induction entries with
  | nil => simp [insert, find?, Ne.symm distinct]
  | cons entry rest ih =>
    obtain ⟨key, old⟩ := entry
    rw [insert]
    split
    · simp [find?, Ne.symm distinct]
    · split
      · rename_i equal
        subst equal
        simp [find?, Ne.symm distinct]
      · simp [find?, ih]

theorem mem_insert {name : String} {value : α} {entry : String × α}
    {entries : List (String × α)} (found : entry ∈ insert name value entries) :
    entry = (name, value) ∨ entry ∈ entries := by
  induction entries with
  | nil => simpa [insert] using found
  | cons head rest ih =>
    obtain ⟨key, old⟩ := head
    rw [insert] at found
    split at found
    · simpa using found
    · split at found
      · rcases List.mem_cons.1 found with rfl | later
        · exact .inl rfl
        · exact .inr (List.mem_cons_of_mem _ later)
      · rcases List.mem_cons.1 found with rfl | later
        · exact .inr (by simp)
        · exact (ih later).imp id (List.mem_cons_of_mem _)

theorem mem_of_find? {name : String} {value : α} {entries : List (String × α)}
    (found : find? name entries = some value) : (name, value) ∈ entries := by
  induction entries with
  | nil => simp [find?] at found
  | cons head rest ih =>
    obtain ⟨key, old⟩ := head
    rw [find?] at found
    split at found
    · rename_i equal
      cases found
      simp [equal]
    · exact List.mem_cons_of_mem _ (ih found)

theorem ascending_nil : Ascending ([] : List (String × α)) := List.Pairwise.nil

theorem Ascending.insert {entries : List (String × α)} (ascending : Ascending entries)
    (name : String) (value : α) : Ascending (insert name value entries) := by
  induction entries with
  | nil => simp [Entries.insert, Ascending]
  | cons head rest ih =>
    obtain ⟨key, old⟩ := head
    obtain ⟨least, order⟩ := List.pairwise_cons.1 ascending
    rw [Entries.insert]
    split
    · rename_i before
      refine List.pairwise_cons.2 ⟨?_, ascending⟩
      intro entry member
      rcases List.mem_cons.1 member with rfl | later
      · exact before
      · exact String.lt_trans before (least _ later)
    · split
      · rename_i equal
        subst equal
        exact List.pairwise_cons.2 ⟨least, order⟩
      · rename_i notBefore unequal
        have after : key < name := by
          rcases Decidable.em (key < name) with lt | notLt
          · exact lt
          · exact absurd (String.le_antisymm (String.not_lt.1 notLt) (String.not_lt.1 notBefore))
              unequal
        refine List.pairwise_cons.2 ⟨?_, ih order⟩
        intro entry member
        rcases mem_insert member with rfl | earlier
        · exact after
        · exact least _ earlier

end Entries

/-- A finite map from names, listed in name order. -/
structure NameMap (α : Type) where
  /-- The entries in ascending order of their names. -/
  entries : List (String × α)
  /-- No name is out of place or listed twice. -/
  ascending : Entries.Ascending entries
deriving DecidableEq

namespace NameMap

variable {α : Type}

/-- The map without entries. -/
def empty : NameMap α := ⟨[], Entries.ascending_nil⟩

instance : Inhabited (NameMap α) := ⟨empty⟩

/-- The value filed under `name`. -/
def get? (map : NameMap α) (name : String) : Option α := Entries.find? name map.entries

/-- Files `value` under `name`; a later insertion replaces an earlier one. -/
def insert (map : NameMap α) (name : String) (value : α) : NameMap α :=
  ⟨Entries.insert name value map.entries, map.ascending.insert name value⟩

/-- Inserts pairs in order, so that of two with one name the later stays. -/
def ofList (pairs : List (String × α)) : NameMap α :=
  pairs.foldl (fun map pair => map.insert pair.1 pair.2) empty

/-- The number of names. -/
def size (map : NameMap α) : Nat := map.entries.length

/-- The names in ascending order. -/
def names (map : NameMap α) : List String := map.entries.map (·.1)

@[simp]
theorem get?_insert_self (map : NameMap α) (name : String) (value : α) :
    (map.insert name value).get? name = some value :=
  Entries.find?_insert_self name value map.entries

theorem get?_insert_of_ne (map : NameMap α) {name other : String} (distinct : other ≠ name)
    (value : α) : (map.insert name value).get? other = map.get? other :=
  Entries.find?_insert_of_ne distinct value map.entries

end NameMap
end Workbench
