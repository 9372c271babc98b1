import Almanac.Proofs.Json.Scalars

/-!
# Written data are read back

Data of the kinds that are written can be read from their text, with whatever stands behind
it left over. The fuel of the reader is no matter: every call is made on a text that is shorter
by a mark, so the length of the text is enough.
-/

namespace Almanac.Json

/-- Data that a text can hold without loss: whole numbers fit into 64 bits, and nothing is
damaged. -/
inductive Plain : Datum → Prop where
  | null : Plain .null
  | bool (b : Bool) : Plain (.bool b)
  | integer {n : Int} (hn : IsWord n) : Plain (.integer n)
  | string (s : String) : Plain (.string s)
  | sequence {items : List Datum} (hitems : ∀ d ∈ items, Plain d) : Plain (.sequence items true)
  | mapping {entries : List (String × Datum)} (hentries : ∀ e ∈ entries, Plain e.2) :
      Plain (.mapping entries .closed)

/-- The text of the datum is read as the datum, and the reader stops behind it. -/
def ReadsBack (d : Datum) : Prop :=
  ∀ (fuel : Nat) (rest : List Char), (writeDatum d).length ≤ fuel → Follows rest →
    value fuel (writeDatum d ++ rest) = (d, some rest)

theorem follows_of_mark {c : Char} (hc : c = ',' ∨ c = ']' ∨ c = '}') (rest : List Char) :
    Follows (c :: rest) := by
  intro d hd
  exact Option.some_inj.mp hd ▸ hc

theorem skipSpace_of_not_space {c : Char} (hc : isSpace c = false) (s : List Char) :
    skipSpace (c :: s) = c :: s := by
  simp [skipSpace, hc]

/-! ## How data begin -/

/-- A number begins with its sign or with a digit. -/
def beginsNumber (c : Char) : Bool := c == '-' || c.isDigit

theorem exists_writeInt_eq_cons (n : Int) :
    ∃ c s, writeInt n = c :: s ∧ beginsNumber c = true := by
  obtain ⟨c, s, hdigits, hdigit⟩ := exists_toDigits_eq_cons n.natAbs
  by_cases hneg : n < 0
  · exact ⟨'-', Nat.toDigits 10 n.natAbs, by rw [writeInt, if_pos hneg], rfl⟩
  · exact ⟨c, s, by rw [writeInt, if_neg hneg, hdigits], by simp [beginsNumber, hdigit]⟩

theorem ne_of_beginsNumber {c mark : Char} (hc : beginsNumber c = true)
    (hmark : beginsNumber mark = false) : c ≠ mark := by
  rintro rfl
  rw [hc] at hmark
  cases hmark

theorem isSpace_of_beginsNumber {c : Char} (hc : beginsNumber c = true) : isSpace c = false := by
  by_contra hspace
  simp only [isSpace, Bool.not_eq_false, Bool.or_eq_true, beq_iff_eq] at hspace
  rcases hspace with ((rfl | rfl) | rfl) | rfl <;> cases hc

/-- The text of a datum begins with a character that stands for no blank and closes nothing. -/
theorem exists_writeDatum_eq_cons (d : Datum) :
    ∃ c s, writeDatum d = c :: s ∧ isSpace c = false ∧ c ≠ ']' := by
  cases d with
  | bool b => cases b <;> exact ⟨_, _, rfl, by decide, by decide⟩
  | integer n =>
      obtain ⟨c, s, hwrite, hc⟩ := exists_writeInt_eq_cons n
      exact ⟨c, s, hwrite, isSpace_of_beginsNumber hc, ne_of_beginsNumber hc (by decide)⟩
  | string s => exact ⟨'"', _, rfl, by decide, by decide⟩
  | sequence items complete => exact ⟨'[', _, rfl, by decide, by decide⟩
  | mapping entries ending => exact ⟨'{', _, rfl, by decide, by decide⟩
  | _ => exact ⟨'n', _, rfl, by decide, by decide⟩

/-- No text is empty, so there is fuel for the call itself. -/
theorem ReadsBack.of_succ {d : Datum}
    (hread : ∀ (fuel : Nat) (rest : List Char), (writeDatum d).length ≤ fuel + 1 → Follows rest →
      value (fuel + 1) (writeDatum d ++ rest) = (d, some rest)) : ReadsBack d := by
  intro fuel rest hfuel hrest
  cases fuel with
  | zero =>
      obtain ⟨c, s, hwrite, _⟩ := exists_writeDatum_eq_cons d
      rw [hwrite] at hfuel
      cases hfuel
  | succ fuel => exact hread fuel rest hfuel hrest

/-! ## Scalars -/

theorem readsBack_null : ReadsBack .null := by
  refine .of_succ fun fuel rest _ _ => ?_
  simp [writeDatum, value, skipSpace, isSpace, afterWord]

theorem readsBack_bool (b : Bool) : ReadsBack (.bool b) := by
  refine .of_succ fun fuel rest _ _ => ?_
  cases b <;> simp [writeDatum, value, skipSpace, isSpace, afterWord]

theorem readsBack_string (s : String) : ReadsBack (.string s) := by
  refine .of_succ fun fuel rest _ _ => ?_
  obtain ⟨body, hbody, hdatum⟩ := stringDatum_writeString s rest
  rw [writeDatum, hbody, value, skipSpace_of_not_space (by decide)]
  exact hdatum

theorem value_of_beginsNumber {c : Char} (hc : beginsNumber c = true) (fuel : Nat)
    (s : List Char) : value (fuel + 1) (c :: s) = numberDatum (c :: s) := by
  rw [value, skipSpace_of_not_space (isSpace_of_beginsNumber hc)]
  split
  case h_7 => rfl
  all_goals
    next hmark => exact absurd (List.cons.inj hmark).1 (ne_of_beginsNumber hc (by decide))

theorem readsBack_integer {n : Int} (hn : IsWord n) : ReadsBack (.integer n) := by
  refine .of_succ fun fuel rest _ hrest => ?_
  have hnumber := numberDatum_writeInt hn hrest
  obtain ⟨c, s, hwrite, hc⟩ := exists_writeInt_eq_cons n
  rw [hwrite, List.cons_append] at hnumber
  rw [writeDatum, hwrite, List.cons_append, value_of_beginsNumber hc]
  exact hnumber

/-! ## Sequences -/

section Items

variable {fuel : Nat} {s rest : List Char} {d : Datum} {c : Char}

/-- The last item stands before the closing bracket. -/
theorem items_of_last (hvalue : value fuel s = (d, some (']' :: rest))) :
    items (fuel + 1) s = ([d], some rest) := by
  rw [items, hvalue]
  rfl

/-- An item with a comma behind it stands before another item. -/
theorem items_of_comma (hspace : isSpace c = false) (hc : c ≠ ']')
    (hvalue : value fuel s = (d, some (',' :: c :: rest))) :
    items (fuel + 1) s = (d :: (items fuel (c :: rest)).1, (items fuel (c :: rest)).2) := by
  rw [items, hvalue]
  simp only [skipSpace_of_not_space (c := ',') (by decide), skipSpace_of_not_space hspace]
  split
  next hclosed => exact absurd (List.cons.inj hclosed).1 hc
  next => rfl

/-- An opening bracket stands before the items. -/
theorem value_of_items (hspace : isSpace c = false) (hc : c ≠ ']') {ds : List Datum}
    (hitems : items fuel (c :: s) = (ds, some rest)) :
    value (fuel + 1) ('[' :: c :: s) = (.sequence ds true, some rest) := by
  rw [value, skipSpace_of_not_space (by decide)]
  simp only [skipSpace_of_not_space hspace]
  split
  next hclosed => exact absurd (List.cons.inj hclosed).1 hc
  next => rw [hitems]; rfl

end Items

theorem writeItems_cons_cons (d e : Datum) (es : List Datum) :
    writeItems (d :: e :: es) = writeDatum d ++ ',' :: writeItems (e :: es) := rfl

theorem exists_writeItems_eq_cons (d : Datum) (ds : List Datum) :
    ∃ c s, writeItems (d :: ds) = c :: s ∧ isSpace c = false ∧ c ≠ ']' := by
  obtain ⟨c, s, hwrite, hc⟩ := exists_writeDatum_eq_cons d
  cases ds with
  | nil => exact ⟨c, s, hwrite, hc⟩
  | cons e es =>
      refine ⟨c, s ++ ',' :: writeItems (e :: es), ?_, hc⟩
      rw [writeItems_cons_cons, hwrite, List.cons_append]

theorem items_writeItems (d : Datum) (ds : List Datum) (hitems : ∀ e ∈ d :: ds, ReadsBack e)
    (fuel : Nat) (rest : List Char) (hfuel : (writeItems (d :: ds)).length < fuel) :
    items fuel (writeItems (d :: ds) ++ ']' :: rest) = (d :: ds, some rest) := by
  induction ds generalizing d fuel with
  | nil =>
      obtain ⟨fuel, rfl⟩ := Nat.exists_eq_add_one_of_ne_zero (Nat.ne_zero_of_lt hfuel)
      rw [writeItems] at hfuel ⊢
      exact items_of_last (hitems d List.mem_cons_self fuel _ (by omega)
        (follows_of_mark (by simp) rest))
  | cons e es ih =>
      obtain ⟨fuel, rfl⟩ := Nat.exists_eq_add_one_of_ne_zero (Nat.ne_zero_of_lt hfuel)
      obtain ⟨c, s, hwrite, hspace, hc⟩ := exists_writeItems_eq_cons e es
      rw [writeItems_cons_cons, List.length_append, List.length_cons] at hfuel
      have hothers := ih e (fun x hx => hitems x (List.mem_cons_of_mem d hx)) fuel (by omega)
      have hd := hitems d List.mem_cons_self fuel (',' :: (writeItems (e :: es) ++ ']' :: rest))
        (by omega) (follows_of_mark (by simp) _)
      rw [hwrite, List.cons_append] at hothers hd
      rw [writeItems_cons_cons, List.append_assoc, List.cons_append, hwrite, List.cons_append,
        items_of_comma hspace hc hd, hothers]

theorem readsBack_sequence {ds : List Datum} (hitems : ∀ d ∈ ds, ReadsBack d) :
    ReadsBack (.sequence ds true) := by
  refine .of_succ fun fuel rest hfuel _ => ?_
  cases ds with
  | nil => simp [writeDatum, writeItems, value, skipSpace, isSpace]
  | cons d ds =>
      obtain ⟨c, s, hwrite, hspace, hc⟩ := exists_writeItems_eq_cons d ds
      rw [writeDatum, List.length_append, List.length_cons, List.length_singleton] at hfuel
      have hread := items_writeItems d ds hitems fuel rest (by omega)
      rw [hwrite, List.cons_append] at hread
      rw [writeDatum, List.append_assoc, List.singleton_append, hwrite]
      exact value_of_items hspace hc hread

/-! ## Mappings -/

section Entries

variable {fuel : Nat} {s rest : List Char} {d : Datum}

/-- The last entry stands before the closing brace. -/
theorem entries_of_last (name : String) (hvalue : value fuel s = (d, some ('}' :: rest))) :
    entries (fuel + 1) (writeString name.toList ++ ':' :: s) =
      ([(name, d)], .closed, some rest) := by
  obtain ⟨body, hbody, hdatum⟩ := stringDatum_writeString name (':' :: s)
  rw [hbody, entries, skipSpace_of_not_space (by decide)]
  simp only [hdatum, skipSpace_of_not_space (c := ':') (by decide), hvalue,
    skipSpace_of_not_space (c := '}') (by decide)]
  rfl

/-- An entry with a comma behind it stands before other entries. -/
theorem entries_of_comma (name : String) (hvalue : value fuel s = (d, some (',' :: rest))) :
    entries (fuel + 1) (writeString name.toList ++ ':' :: s) =
      ((name, d) :: (entries fuel rest).1, (entries fuel rest).2) := by
  obtain ⟨body, hbody, hdatum⟩ := stringDatum_writeString name (':' :: s)
  rw [hbody, entries, skipSpace_of_not_space (by decide)]
  simp only [hdatum, skipSpace_of_not_space (c := ':') (by decide), hvalue,
    skipSpace_of_not_space (c := ',') (by decide)]
  rfl

/-- An opening brace stands before the entries. -/
theorem value_of_entries {es : List (String × Datum)}
    (hentries : entries fuel ('"' :: s) = (es, .closed, some rest)) :
    value (fuel + 1) ('{' :: '"' :: s) = (.mapping es .closed, some rest) := by
  rw [value, skipSpace_of_not_space (by decide)]
  simp only [skipSpace_of_not_space (c := '"') (by decide), hentries]

end Entries

theorem writeEntries_cons_cons (name : String) (d : Datum) (e : String × Datum)
    (es : List (String × Datum)) :
    writeEntries ((name, d) :: e :: es) =
      writeString name.toList ++ ':' :: (writeDatum d ++ ',' :: writeEntries (e :: es)) := by
  simp [writeEntries]

theorem exists_writeEntries_eq_cons (e : String × Datum) (es : List (String × Datum)) :
    ∃ s, writeEntries (e :: es) = '"' :: s := by
  obtain ⟨name, d⟩ := e
  cases es with
  | nil => exact ⟨_, rfl⟩
  | cons e es => exact ⟨_, rfl⟩

theorem entries_writeEntries (e : String × Datum) (es : List (String × Datum))
    (hentries : ∀ x ∈ e :: es, ReadsBack x.2) (fuel : Nat) (rest : List Char)
    (hfuel : (writeEntries (e :: es)).length < fuel) :
    entries fuel (writeEntries (e :: es) ++ '}' :: rest) = (e :: es, .closed, some rest) := by
  obtain ⟨fuel, rfl⟩ := Nat.exists_eq_add_one_of_ne_zero (Nat.ne_zero_of_lt hfuel)
  induction es generalizing e fuel with
  | nil =>
      obtain ⟨name, d⟩ := e
      rw [writeEntries, List.length_append, List.length_cons] at hfuel
      have hd : ReadsBack d := hentries (name, d) List.mem_cons_self
      rw [writeEntries, List.append_assoc, List.cons_append]
      exact entries_of_last name (hd fuel _ (by omega) (follows_of_mark (by simp) rest))
  | cons f es ih =>
      obtain ⟨name, d⟩ := e
      rw [writeEntries_cons_cons, List.length_append, List.length_cons, List.length_append,
        List.length_cons] at hfuel
      have hd : ReadsBack d := hentries (name, d) List.mem_cons_self
      have hvalue := hd fuel (',' :: (writeEntries (f :: es) ++ '}' :: rest)) (by omega)
        (follows_of_mark (by simp) _)
      rw [writeEntries_cons_cons, List.append_assoc, List.cons_append, List.append_assoc,
        List.cons_append, entries_of_comma name hvalue]
      obtain ⟨fuel, rfl⟩ : ∃ n, fuel = n + 1 := Nat.exists_eq_add_one_of_ne_zero (by omega)
      rw [ih f (fun x hx => hentries x (List.mem_cons_of_mem _ hx)) fuel (by omega)]

theorem readsBack_mapping {es : List (String × Datum)} (hentries : ∀ e ∈ es, ReadsBack e.2) :
    ReadsBack (.mapping es .closed) := by
  refine .of_succ fun fuel rest hfuel _ => ?_
  cases es with
  | nil => simp [writeDatum, writeEntries, value, skipSpace, isSpace]
  | cons e es =>
      obtain ⟨s, hwrite⟩ := exists_writeEntries_eq_cons e es
      rw [writeDatum, List.length_append, List.length_cons, List.length_singleton] at hfuel
      have hread := entries_writeEntries e es hentries fuel rest (by omega)
      rw [hwrite, List.cons_append] at hread
      rw [writeDatum, List.append_assoc, List.singleton_append, hwrite]
      exact value_of_entries hread

/-! ## All data -/

theorem Plain.readsBack {d : Datum} (hplain : Plain d) : ReadsBack d := by
  induction hplain with
  | null => exact readsBack_null
  | bool b => exact readsBack_bool b
  | integer hn => exact readsBack_integer hn
  | string s => exact readsBack_string s
  | sequence _ ih => exact readsBack_sequence ih
  | mapping _ ih => exact readsBack_mapping ih

/-- What has been written is read back, to the end of the text. -/
theorem read_write {d : Datum} (hplain : Plain d) : read (write d) = (d, true) := by
  have hread := hplain.readsBack (2 * (writeDatum d).length + 2) [] (by omega) (by simp [Follows])
  rw [List.append_nil] at hread
  simp only [read, write, String.toList_ofList, hread]
  rfl

end Almanac.Json
