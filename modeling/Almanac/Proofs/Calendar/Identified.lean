import Almanac.Proofs.Calendar.Components

/-!
# Components that are written as they are

Nothing is handed out for a component that has an identifier and a time stamp. If all
components have both, those inside others included, the text of their calendar is the same
whatever could be handed out. If one lacks either, what is handed out shows in the text.
-/

namespace Almanac.Calendar

/-- The component has an identifier and a time stamp of its own. -/
structure Component.Identified (c : Component) : Prop where
  uid : c.single.contains "UID" = true
  stamp : c.single.contains "DTSTAMP" = true

instance (c : Component) : Decidable c.Identified :=
  decidable_of_iff (c.single.contains "UID" = true ∧ c.single.contains "DTSTAMP" = true)
    ⟨fun h => ⟨h.1, h.2⟩, fun h => ⟨h.uid, h.stamp⟩⟩

/-- Two calendars are handed out different values, whose lines are of the same length. -/
structure Issue.Apart (issue issue' : Issue) : Prop where
  stamp_length : (writePlain "DTSTAMP" issue.stamp).length =
    (writePlain "DTSTAMP" issue'.stamp).length
  stamp_ne : writePlain "DTSTAMP" issue.stamp ≠ writePlain "DTSTAMP" issue'.stamp
  identifier_length : ∀ n, (writePlain "UID" (issue.identifier n)).length =
    (writePlain "UID" (issue'.identifier n)).length
  identifier_ne : ∀ n, writePlain "UID" (issue.identifier n) ≠ writePlain "UID" (issue'.identifier n)

open Component (Identified)

/-! ## Nothing is handed out -/

mutual

theorem writeComponent_of_identified (issue issue' : Issue) (next next' : Nat) (c : Component)
    (hc : c.Everywhere Identified) :
    (writeComponent issue next c).1 = (writeComponent issue' next' c).1 := by
  obtain ⟨kind, single, repeated, children⟩ := c
  obtain ⟨_, hhere, hinside⟩ := hc
  have huid : single.contains "UID" = true := hhere.uid
  have hstamp : single.contains "DTSTAMP" = true := hhere.stamp
  have hinner := writeComponents_of_identified issue issue' next next' children hinside
  simp only [writeComponent, huid, hstamp, if_true, hinner]

theorem writeComponents_of_identified (issue issue' : Issue) (next next' : Nat)
    (cs : List Component) (hcs : ∀ c ∈ cs, c.Everywhere Identified) :
    (writeComponents issue next cs).1 = (writeComponents issue' next' cs).1 := by
  cases cs with
  | nil => simp only [writeComponents]
  | cons c cs =>
      obtain ⟨hfirst, hrest⟩ := List.forall_mem_cons.mp hcs
      simp only [writeComponents]
      rw [writeComponent_of_identified issue issue' next next' c hfirst,
        writeComponents_of_identified issue issue' _ (writeComponent issue' next' c).2 cs hrest]

end

/-! ## What is handed out shows -/

namespace Issue.Apart

variable {issue issue' : Issue}

mutual

theorem writeComponent_length (hapart : issue.Apart issue') (next : Nat) (c : Component) :
    (writeComponent issue next c).1.length = (writeComponent issue' next c).1.length ∧
      (writeComponent issue next c).2 = (writeComponent issue' next c).2 := by
  obtain ⟨kind, single, repeated, children⟩ := c
  obtain ⟨hinner, hnumber⟩ := writeComponents_length hapart
    (if single.contains "UID" then next else next + 1) children
  simp only [writeComponent, List.length_append, hinner, hnumber, apply_ite List.length,
    hapart.stamp_length, hapart.identifier_length, and_self]

theorem writeComponents_length (hapart : issue.Apart issue') (next : Nat) (cs : List Component) :
    (writeComponents issue next cs).1.length = (writeComponents issue' next cs).1.length ∧
      (writeComponents issue next cs).2 = (writeComponents issue' next cs).2 := by
  cases cs with
  | nil => simp only [writeComponents, and_self]
  | cons c cs =>
      obtain ⟨hfirst, hnext⟩ := writeComponent_length hapart next c
      obtain ⟨hrest, hlast⟩ := writeComponents_length hapart (writeComponent issue' next c).2 cs
      simp only [writeComponents, List.length_append, hnext, hfirst, hrest, hlast, and_self]

end

theorem contains_of_line_eq {single : Dictionary Property} {name : String} {line line' : List Char}
    (hne : line ≠ line')
    (heq : (if single.contains name then [] else line) =
      if single.contains name then [] else line') : single.contains name = true := by
  by_cases hname : single.contains name = true
  · exact hname
  · rw [if_neg hname, if_neg hname] at heq
    exact absurd heq hne

mutual

theorem identified_of_writeComponent_eq (hapart : issue.Apart issue') (next : Nat) (c : Component)
    (heq : (writeComponent issue next c).1 = (writeComponent issue' next c).1) :
    c.Everywhere Identified := by
  obtain ⟨kind, single, repeated, children⟩ := c
  have hinner := hapart.writeComponents_length
    (if single.contains "UID" then next else next + 1) children
  simp only [writeComponent] at heq
  -- From the last line to the first, each piece of one text lies above its like in the other.
  obtain ⟨heq, _⟩ := List.append_inj' heq rfl
  obtain ⟨heq, hchildren⟩ := List.append_inj' heq hinner.1
  obtain ⟨heq, _⟩ := List.append_inj' heq rfl
  obtain ⟨heq, huid⟩ := List.append_inj' heq
    (by simp only [apply_ite List.length, hapart.identifier_length])
  obtain ⟨heq, _⟩ := List.append_inj' heq rfl
  obtain ⟨_, hstamp⟩ := List.append_inj heq rfl
  refine ⟨_, ⟨?_, ?_⟩, ?_⟩
  · exact contains_of_line_eq (hapart.identifier_ne next) huid
  · exact contains_of_line_eq hapart.stamp_ne hstamp
  · exact identified_of_writeComponents_eq hapart _ children hchildren

theorem identified_of_writeComponents_eq (hapart : issue.Apart issue') (next : Nat)
    (cs : List Component)
    (heq : (writeComponents issue next cs).1 = (writeComponents issue' next cs).1) :
    ∀ c ∈ cs, c.Everywhere Identified := by
  cases cs with
  | nil => simp
  | cons c cs =>
      obtain ⟨hlength, hnext⟩ := hapart.writeComponent_length next c
      simp only [writeComponents, hnext] at heq
      obtain ⟨hfirst, hrest⟩ := List.append_inj heq hlength
      rw [List.forall_mem_cons]
      exact ⟨identified_of_writeComponent_eq hapart next c hfirst,
        identified_of_writeComponents_eq hapart _ cs hrest⟩

end

end Issue.Apart

/-! ## Calendars -/

/-- The text of a calendar whose components have all that they need. -/
theorem write_of_identified (issue issue' : Issue) (name description : String)
    (events : List Component) (hevents : ∀ e ∈ events, e.Everywhere Identified) :
    write issue name description events = write issue' name description events := by
  simp only [write, writeComponents_of_identified issue issue' 0 0 events hevents]

/-- Only the text of such a calendar is the same when other values are handed out. -/
theorem write_eq_iff {issue issue' : Issue} (hapart : issue.Apart issue')
    (name description : String) (events : List Component) :
    write issue name description events = write issue' name description events ↔
      ∀ e ∈ events, e.Everywhere Identified := by
  constructor
  · intro heq
    have htext := String.ofList_injective heq
    obtain ⟨hupper, _⟩ := List.append_inj' htext rfl
    obtain ⟨_, hbody⟩ := List.append_inj hupper rfl
    exact hapart.identified_of_writeComponents_eq 0 events hbody
  · exact write_of_identified issue issue' name description events

end Almanac.Calendar
