/-!
# Ordered associations

Finite maps from texts, held as lists of pairs in ascending order of the keys. An insertion
keeps the order, so that walking through a map visits its keys in order.

Results:
* `get?_insert`, `get?_erase`, `get?_modify`: what each operation does to every key.
* `keys_insert_mem_iff`: the keys after an insertion.
-/

namespace MqttRelay

/-- A finite map from texts. -/
abbrev Assoc (α : Type) := List (String × α)

namespace Assoc

variable {α : Type}

/-- The value of a key. -/
def get? (m : Assoc α) (key : String) : Option α :=
  (m.find? fun f => f.1 == key).map (·.2)

/-- Sets a key, in its place in the order of keys. -/
def insert (key : String) (value : α) : Assoc α → Assoc α
  | [] => [(key, value)]
  | f :: fs =>
    if key < f.1 then (key, value) :: f :: fs
    else if key = f.1 then (key, value) :: fs
    else f :: insert key value fs

/-- The map of a list of pairs; a later pair replaces an earlier one of the same key. -/
def ofList (pairs : List (String × α)) : Assoc α :=
  pairs.foldl (fun m p => insert p.1 p.2 m) []

/-- Removes a key. -/
def erase (key : String) (m : Assoc α) : Assoc α :=
  m.filter fun f => f.1 != key

/-- Changes the value of a key, if there is one. -/
def modify (key : String) (f : α → α) (m : Assoc α) : Assoc α :=
  m.map fun p => if p.1 = key then (p.1, f p.2) else p

/-- Whether a key has a value. -/
def contains (m : Assoc α) (key : String) : Bool := (get? m key).isSome

@[simp] theorem get?_nil (key : String) : get? ([] : Assoc α) key = none := rfl

theorem get?_cons (f : String × α) (fs : Assoc α) (key : String) :
    get? (f :: fs) key = if f.1 = key then some f.2 else get? fs key := by
  by_cases h : f.1 = key
  · simp [get?, h]
  · simp [get?, List.find?_cons_of_neg, h]

/-- An insertion sets its key and leaves every other key as it was. -/
theorem get?_insert (key other : String) (value : α) (m : Assoc α) :
    get? (insert key value m) other = if key = other then some value else get? m other := by
  induction m with
  | nil => simp [insert, get?_cons]
  | cons f fs ih =>
    by_cases h1 : key < f.1
    · simp [insert, h1, get?_cons]
    · by_cases h2 : key = f.1
      · subst h2
        by_cases h3 : f.1 = other <;> simp [insert, get?_cons, h3]
      · by_cases h3 : f.1 = other
        · have h4 : key ≠ other := fun h => h2 (h.trans h3.symm)
          rw [insert, if_neg h1, if_neg h2, get?_cons, if_pos h3, get?_cons, if_pos h3, if_neg h4]
        · simp [insert, h1, h2, get?_cons, h3, ih]

@[simp] theorem get?_insert_self (key : String) (value : α) (m : Assoc α) :
    get? (insert key value m) key = some value := by simp [get?_insert]

/-- A removal takes its key away and leaves every other key as it was. -/
theorem get?_erase (key other : String) (m : Assoc α) :
    get? (erase key m) other = if key = other then none else get? m other := by
  induction m with
  | nil => simp [erase]
  | cons f fs ih =>
    have ih' : get? (List.filter (fun f => f.1 != key) fs) other =
      if key = other then none else get? fs other := ih
    by_cases h1 : f.1 = key
    · by_cases h2 : key = other
      · subst h2
        simp [erase, h1, ih']
      · have h3 : f.1 ≠ other := fun h => h2 (h1.symm.trans h)
        simp [erase, h1, ih', h2, get?_cons]
    · by_cases h2 : key = other
      · subst h2
        simp [erase, h1, ih', get?_cons]
      · simp [erase, h1, ih', get?_cons, h2]

/-- A change acts on its key alone. -/
theorem get?_modify (key other : String) (f : α → α) (m : Assoc α) :
    get? (modify key f m) other =
      if key = other then (get? m other).map f else get? m other := by
  induction m with
  | nil => simp [modify]
  | cons p fs ih =>
    have ih' : get? (List.map (fun p => if p.1 = key then (p.1, f p.2) else p) fs) other =
      if key = other then (get? fs other).map f else get? fs other := ih
    by_cases h1 : p.1 = key
    · by_cases h2 : key = other
      · simp [modify, h1, h2, get?_cons]
      · simp [modify, h1, ih', h2, get?_cons]
    · by_cases h2 : key = other
      · subst h2
        simp [modify, h1, ih', get?_cons]
      · simp [modify, h1, ih', get?_cons, h2]

/-- The keys after an insertion are the ones before it and its own. -/
theorem keys_insert_mem_iff (key other : String) (value : α) (m : Assoc α) :
    other ∈ (insert key value m).map (·.1) ↔ other = key ∨ other ∈ m.map (·.1) := by
  induction m with
  | nil => simp [insert]
  | cons f fs ih =>
    unfold insert
    split
    · simp
    · split
      · next h => simp [h]
      · simp only [List.map_cons, List.mem_cons, ih]
        constructor
        · rintro (h | h | h) <;> simp [h]
        · rintro (h | h | h) <;> simp [h]

end Assoc

end MqttRelay
