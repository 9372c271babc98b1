import Almanac.Dictionary
import Mathlib.Data.List.Induction
import Mathlib.Data.List.Sort

/-!
# Look-up in dictionaries

A dictionary that is made from pairs gives a value to just the names of the pairs,
and the value is one that a pair has.
-/

namespace Almanac.Dictionary

variable {α : Type}

@[simp] theorem get?_empty (name : String) : (∅ : Dictionary α).get? name = none := rfl

theorem ofList_append (pairs : List (String × α)) (p : String × α) :
    ofList (pairs ++ [p]) = (ofList pairs).set p.1 p.2 := by
  simp [ofList]

/-- What a dictionary gives is one of the pairs that it is made from. -/
theorem mem_of_get?_ofList {pairs : List (String × α)} {name : String} {value : α}
    (hget : (ofList pairs).get? name = some value) : (name, value) ∈ pairs := by
  induction pairs using List.reverseRecOn with
  | nil => cases hget
  | append_singleton pairs p ih =>
      rw [ofList_append, get?_set] at hget
      split at hget
      next hname =>
        obtain rfl := Option.some.inj hget
        subst hname
        simp
      next => exact List.mem_append_left _ (ih hget)

theorem get?_ofList_eq_none {pairs : List (String × α)} {name : String}
    (hget : (ofList pairs).get? name = none) : ∀ p ∈ pairs, p.1 ≠ name := by
  induction pairs using List.reverseRecOn with
  | nil => simp
  | append_singleton pairs p ih =>
      rw [ofList_append, get?_set] at hget
      split at hget
      next => cases hget
      next hname =>
        intro q hq
        rcases List.mem_append.mp hq with hq | hq
        · exact ih hget q hq
        · rwa [List.mem_singleton.mp hq]

/-- A name whose pairs all have one value is given that value. -/
theorem get?_ofList_of_mem {pairs : List (String × α)} {name : String} {value : α}
    (hmem : (name, value) ∈ pairs) (hunique : ∀ other, (name, other) ∈ pairs → other = value) :
    (ofList pairs).get? name = some value := by
  cases hget : (ofList pairs).get? name with
  | none => exact absurd rfl (get?_ofList_eq_none hget (name, value) hmem)
  | some other => rw [hunique other (mem_of_get?_ofList hget)]

/-! ## Entries -/

theorem find?_eq_none_of_lt {entries : List (String × α)} {name : String}
    (hlt : ∀ p ∈ entries, name < p.1) : entries.find? (fun p => p.1 == name) = none := by
  rw [List.find?_eq_none]
  intro p hp
  simpa using (String.ne_of_lt (hlt p hp)).symm

theorem find?_eq_some_iff {entries : List (String × α)}
    (hsorted : entries.Pairwise (fun p q => p.1 < q.1)) (name : String) (value : α) :
    (entries.find? (fun p => p.1 == name)).map Prod.snd = some value ↔
      (name, value) ∈ entries := by
  induction entries with
  | nil => simp
  | cons entry entries ih =>
      obtain ⟨first, value'⟩ := entry
      obtain ⟨hfirst, hrest⟩ := List.pairwise_cons.mp hsorted
      rw [List.find?_cons, List.mem_cons, ← ih hrest]
      by_cases hname : first = name
      · subst hname
        simp [find?_eq_none_of_lt hfirst, eq_comm]
      · simp [beq_false_of_ne hname, Ne.symm hname]

theorem get?_eq_some_iff {d : Dictionary α} {name : String} {value : α} :
    d.get? name = some value ↔ (name, value) ∈ d.entries :=
  find?_eq_some_iff d.sorted name value

/-- Of the names with some quality, a name that the dictionary has is the only one just if no other
entry has such a name. -/
theorem length_filter_entries_eq_one_iff {d : Dictionary α} {p : String → Bool} {name : String}
    (hp : p name = true) (hname : d.contains name = true) :
    (d.entries.filter fun e => p e.1).length = 1 ↔
      ∀ other, p other = true → d.contains other = true → other = name := by
  have hmem : ∀ {other : String}, p other = true → d.contains other = true →
      ∃ value, (other, value) ∈ d.entries.filter fun e => p e.1 := by
    intro other hother hcontains
    obtain ⟨value, hvalue⟩ := Option.isSome_iff_exists.mp hcontains
    exact ⟨value, List.mem_filter.mpr ⟨get?_eq_some_iff.mp hvalue, hother⟩⟩
  obtain ⟨value, hvalue⟩ := hmem hp hname
  constructor
  · intro hone other hother hcontains
    obtain ⟨e, he⟩ := List.length_eq_one_iff.mp hone
    obtain ⟨value', hvalue'⟩ := hmem hother hcontains
    rw [he, List.mem_singleton] at hvalue hvalue'
    exact congrArg Prod.fst (hvalue'.trans hvalue.symm)
  · intro honly
    have hentries : d.entries.Nodup :=
      List.nodup_iff_pairwise_ne.mpr (d.sorted.imp fun hlt heq => by
        rw [heq] at hlt
        exact String.lt_irrefl _ hlt)
    have hall : ∀ e ∈ d.entries.filter fun e => p e.1, e = (name, value) := by
      intro e he
      obtain ⟨hentry, hpe⟩ := List.mem_filter.mp he
      have hget := get?_eq_some_iff.mpr hentry
      have hfirst : e.1 = name := honly e.1 hpe (Option.isSome_iff_exists.mpr ⟨_, hget⟩)
      have hsecond := get?_eq_some_iff.mpr (List.mem_filter.mp hvalue).1
      rw [hfirst, hsecond] at hget
      exact Prod.ext hfirst (Option.some.inj hget).symm
    have hnodup := hentries.filter fun e => p e.1
    rw [List.eq_replicate_of_mem hall, List.nodup_replicate] at hnodup
    have hpos := List.length_pos_of_mem hvalue
    omega

/-- Dictionaries that give the same values are equal. -/
theorem ext_get? {d e : Dictionary α} (hget : ∀ name, d.get? name = e.get? name) : d = e := by
  have hmem : ∀ p, p ∈ d.entries ↔ p ∈ e.entries := by
    intro p
    rw [← get?_eq_some_iff (d := d), ← get?_eq_some_iff (d := e), hget]
  -- Both lists are in the order of their names, so the same members make the same list.
  have hentries : d.entries = e.entries :=
    haveI : Std.Irrefl (fun p q : String × α => p.1 < q.1) := ⟨fun p => String.lt_irrefl p.1⟩
    haveI : Std.Antisymm (fun p q : String × α => p.1 < q.1) :=
      ⟨fun p q hpq hqp => absurd hqp (String.lt_asymm hpq)⟩
    d.sorted.eq_of_mem_iff e.sorted (fun p => hmem p)
  cases d
  cases e
  cases hentries
  rfl

/-! ## Setting all entries -/

theorem get?_foldl_set (entries : List (String × α))
    (hsorted : entries.Pairwise (fun p q => p.1 < q.1)) (d : Dictionary α) (name : String) :
    (entries.foldl (fun d p => d.set p.1 p.2) d).get? name =
      ((entries.find? (fun p => p.1 == name)).map Prod.snd).or (d.get? name) := by
  induction entries generalizing d with
  | nil => rfl
  | cons entry entries ih =>
      obtain ⟨first, value⟩ := entry
      obtain ⟨hfirst, hrest⟩ := List.pairwise_cons.mp hsorted
      rw [List.foldl_cons, ih hrest, get?_set, List.find?_cons]
      by_cases hname : first = name
      · subst hname
        simp [find?_eq_none_of_lt hfirst]
      · simp [beq_false_of_ne hname, hname]

/-- Setting the entries of a dictionary puts them above what was there. -/
theorem get?_foldl_entries (d e : Dictionary α) (name : String) :
    (d.entries.foldl (fun d p => d.set p.1 p.2) e).get? name = (d.get? name).or (e.get? name) :=
  get?_foldl_set d.entries d.sorted e name

/-- A dictionary is made of its entries. -/
theorem ofList_entries (d : Dictionary α) : ofList d.entries = d := by
  refine ext_get? fun name => ?_
  rw [ofList, get?_foldl_entries]
  exact Option.or_none

theorem set_set (d : Dictionary α) (name : String) (first second : α) :
    (d.set name first).set name second = d.set name second := by
  refine ext_get? fun other => ?_
  simp only [get?_set]
  split <;> rfl

/-! ## Collecting values -/

/-- Adds a value behind the others of its name. -/
def gather (d : Dictionary (List α)) (p : String × α) : Dictionary (List α) :=
  d.set p.1 ((d.get? p.1).getD [] ++ [p.2])

theorem foldl_gather_of_ne_nil (name : String) (values : List α) (hne : values ≠ [])
    (d : Dictionary (List α)) :
    (values.map fun value => (name, value)).foldl gather d =
      d.set name ((d.get? name).getD [] ++ values) := by
  induction values generalizing d with
  | nil => exact absurd rfl hne
  | cons value values ih =>
      rw [List.map_cons, List.foldl_cons]
      cases values with
      | nil => rfl
      | cons second values =>
          rw [ih (List.cons_ne_nil second values), gather, get?_set, if_pos rfl, set_set]
          simp

theorem foldl_gather_of_fresh (entries : List (String × List α))
    (hsorted : entries.Pairwise (fun p q => p.1 < q.1)) (hne : ∀ p ∈ entries, p.2 ≠ [])
    (d : Dictionary (List α)) (hfresh : ∀ p ∈ entries, d.get? p.1 = none) :
    (entries.flatMap fun p => p.2.map fun value => (p.1, value)).foldl gather d =
      entries.foldl (fun d p => d.set p.1 p.2) d := by
  induction entries generalizing d with
  | nil => rfl
  | cons entry entries ih =>
      obtain ⟨hfirst, hrest⟩ := List.pairwise_cons.mp hsorted
      rw [List.flatMap_cons, List.foldl_append,
        foldl_gather_of_ne_nil entry.1 entry.2 (hne entry List.mem_cons_self),
        hfresh entry List.mem_cons_self]
      -- The names that follow are higher than the one that has been set, so they are still fresh.
      refine ih hrest (fun p hp => hne p (List.mem_cons_of_mem _ hp)) _ fun p hp => ?_
      rw [get?_set, if_neg (String.ne_of_lt (hfirst p hp))]
      exact hfresh p (List.mem_cons_of_mem _ hp)

/-- Lists of values that are collected from a dictionary of lists make up the dictionary. -/
theorem foldl_gather_entries (d : Dictionary (List α)) (hne : ∀ p ∈ d.entries, p.2 ≠ []) :
    (d.entries.flatMap fun p => p.2.map fun value => (p.1, value)).foldl gather ∅ = d :=
  (foldl_gather_of_fresh d.entries d.sorted hne ∅ fun _ _ => rfl).trans (ofList_entries d)

end Almanac.Dictionary
