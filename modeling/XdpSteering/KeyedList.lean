/-!
# Lists kept in the order of their keys

A finite map as the list of its entries in ascending key order, each key once. Two such lists with
the same entries are equal, so the list is the map.
-/

namespace XdpSteering

/-- The entries of a finite map in ascending key order. -/
abbrev KeyedList (κ β : Type) := List (κ × β)

namespace KeyedList

variable {κ β : Type} [DecidableEq κ]

def find? (key : κ) : KeyedList κ β → Option β
  | [] => none
  | (k, v) :: rest => if k = key then some v else find? key rest

def has (key : κ) (entries : KeyedList κ β) : Bool :=
  (find? key entries).isSome

/-- Stores a value under a key, in place of the one that is there. -/
def insert [LT κ] [DecidableLT κ] (key : κ) (value : β) : KeyedList κ β → KeyedList κ β
  | [] => [(key, value)]
  | (k, v) :: rest =>
    if key < k then (key, value) :: (k, v) :: rest
    else if k = key then (key, value) :: rest
    else (k, v) :: insert key value rest

def erase (key : κ) (entries : KeyedList κ β) : KeyedList κ β :=
  entries.filter fun entry => entry.1 ≠ key

/-- The map that a list of pairs writes, where a later pair replaces an earlier one. -/
def ofList [LT κ] [DecidableLT κ] (pairs : List (κ × β)) : KeyedList κ β :=
  pairs.foldl (fun entries pair => insert pair.1 pair.2 entries) []

/-- The keys are in strictly ascending order. -/
def Ascending [LT κ] (entries : KeyedList κ β) : Prop :=
  entries.Pairwise fun a b => a.1 < b.1

/-! ## What a look-up finds after a change -/

theorem find?_insert_self [LT κ] [DecidableLT κ] (key : κ) (value : β)
    (entries : KeyedList κ β) : find? key (insert key value entries) = some value := by
  induction entries with
  | nil => simp [insert, find?]
  | cons entry rest ih =>
    obtain ⟨k, v⟩ := entry
    unfold insert
    split
    · simp [find?]
    · split
      · simp [find?]
      · next hk => simp [find?, hk, ih]

theorem find?_insert_of_ne [LT κ] [DecidableLT κ] {key other : κ} (value : β)
    (entries : KeyedList κ β) (h : other ≠ key) :
    find? other (insert key value entries) = find? other entries := by
  induction entries with
  | nil => simp [insert, find?, h.symm]
  | cons entry rest ih =>
    obtain ⟨k, v⟩ := entry
    unfold insert
    split
    · simp [find?, h.symm]
    · split
      · next hk => simp [find?, hk, h.symm]
      · simp [find?, ih]

theorem find?_erase_self (key : κ) (entries : KeyedList κ β) :
    find? key (erase key entries) = none := by
  induction entries with
  | nil => rfl
  | cons entry rest ih =>
    obtain ⟨k, v⟩ := entry
    by_cases hk : k = key
    · simpa [erase, hk] using ih
    · simpa [erase, find?, hk] using ih

theorem find?_erase_of_ne {key other : κ} (entries : KeyedList κ β) (h : other ≠ key) :
    find? other (erase key entries) = find? other entries := by
  induction entries with
  | nil => rfl
  | cons entry rest ih =>
    obtain ⟨k, v⟩ := entry
    by_cases hk : k = key
    · have hne : k ≠ other := fun heq => h (heq.symm.trans hk)
      simpa [erase, find?, hk, hne, h.symm] using ih
    · by_cases ho : k = other
      · simp [erase, find?, ho, h]
      · simpa [erase, find?, hk, ho] using ih

end KeyedList

end XdpSteering
