/-!
# Dictionaries

A dictionary maps names to values and is kept in the order of its names, by code
point. A name occurs at most once, so that two dictionaries with the same
entries are equal.
-/

namespace Almanac

/-- Entries in strictly increasing order of their names. -/
structure Dictionary (α : Type) where
  entries : List (String × α)
  sorted : entries.Pairwise (fun p q => p.1 < q.1)

namespace Dictionary

variable {α : Type}

/-- No entries. -/
def empty : Dictionary α := ⟨[], .nil⟩

instance : EmptyCollection (Dictionary α) := ⟨empty⟩

instance : Inhabited (Dictionary α) := ⟨empty⟩

instance [DecidableEq α] : DecidableEq (Dictionary α) := fun d e =>
  if h : d.entries = e.entries then
    isTrue (by cases d; cases e; cases h; rfl)
  else isFalse fun h' => h (congrArg entries h')

/-- The entries with `name` set to `value`. -/
def setEntry (name : String) (value : α) : List (String × α) → List (String × α)
  | [] => [(name, value)]
  | (n, v) :: rest =>
    if name < n then (name, value) :: (n, v) :: rest
    else if name = n then (name, value) :: rest
    else (n, v) :: setEntry name value rest

theorem mem_setEntry {name : String} {value : α} {p : String × α} {es : List (String × α)}
    (h : p ∈ setEntry name value es) : p = (name, value) ∨ p ∈ es := by
  induction es with
  | nil => simpa [setEntry] using h
  | cons e rest ih =>
    obtain ⟨n, v⟩ := e
    simp only [setEntry] at h
    split at h
    · simpa using h
    · split at h
      · rcases List.mem_cons.1 h with h | h
        · exact .inl h
        · exact .inr (List.mem_cons_of_mem _ h)
      · rcases List.mem_cons.1 h with h | h
        · exact .inr (h ▸ List.mem_cons_self)
        · rcases ih h with h | h
          · exact .inl h
          · exact .inr (List.mem_cons_of_mem _ h)

theorem sorted_setEntry {name : String} {value : α} {es : List (String × α)}
    (h : es.Pairwise (fun p q => p.1 < q.1)) :
    (setEntry name value es).Pairwise (fun p q => p.1 < q.1) := by
  induction es with
  | nil => simp [setEntry]
  | cons e rest ih =>
    obtain ⟨n, v⟩ := e
    obtain ⟨first, later⟩ := List.pairwise_cons.1 h
    simp only [setEntry]
    split
    next lt =>
      refine List.pairwise_cons.2 ⟨fun p hp => ?_, h⟩
      rcases List.mem_cons.1 hp with rfl | hp
      · exact lt
      · exact String.lt_trans lt (first p hp)
    next notLt =>
      split
      next eq =>
        subst eq
        exact List.pairwise_cons.2 ⟨first, later⟩
      next ne =>
        refine List.pairwise_cons.2 ⟨fun p hp => ?_, ih later⟩
        rcases mem_setEntry hp with rfl | hp
        · have le : n ≤ name := String.not_lt.1 notLt
          exact Classical.byContradiction fun notGt =>
            ne (String.le_antisymm (String.not_lt.1 notGt) le)
        · exact first p hp

/-- Sets the value of a name, in place of the one it had. -/
def set (d : Dictionary α) (name : String) (value : α) : Dictionary α :=
  ⟨setEntry name value d.entries, sorted_setEntry d.sorted⟩

/-- The value of a name. -/
def get? (d : Dictionary α) (name : String) : Option α :=
  (d.entries.find? (fun p => p.1 == name)).map Prod.snd

/-- The name has a value. -/
def contains (d : Dictionary α) (name : String) : Bool := (d.get? name).isSome

/-- The values in the order of their names. -/
def values (d : Dictionary α) : List α := d.entries.map Prod.snd

/-- Sets pairs one after the other, so that the last value of a name wins. -/
def ofList (pairs : List (String × α)) : Dictionary α :=
  pairs.foldl (fun d p => d.set p.1 p.2) empty

theorem find?_setEntry (name other : String) (value : α) (es : List (String × α))
    (h : es.Pairwise (fun p q => p.1 < q.1)) :
    ((setEntry name value es).find? (fun p => p.1 == other)).map Prod.snd =
      if name = other then some value
      else (es.find? (fun p => p.1 == other)).map Prod.snd := by
  induction es with
  | nil => by_cases hno : name = other <;> simp [setEntry, hno]
  | cons e rest ih =>
    obtain ⟨n, v⟩ := e
    obtain ⟨first, later⟩ := List.pairwise_cons.1 h
    simp only [setEntry]
    split
    · by_cases hno : name = other <;> simp [List.find?_cons, hno]
    · split
      next eq =>
        subst eq
        by_cases hno : name = other <;> simp [hno]
      next ne =>
        by_cases hn : n = other
        · subst hn
          simp [ne]
        · have : (n == other) = false := by simpa using hn
          simp only [List.find?_cons, this]
          exact ih later

@[simp] theorem get?_set (d : Dictionary α) (name other : String) (value : α) :
    (d.set name value).get? other = if name = other then some value else d.get? other :=
  find?_setEntry name other value d.entries d.sorted

end Dictionary

end Almanac
