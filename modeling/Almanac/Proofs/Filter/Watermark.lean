import Almanac.Filter.Evaluation
import Mathlib.Data.List.Induction

/-!
# The law of the watermark

The three date checks read one part of the start date each, and have a mark of their
own. However evaluations follow each other, a mark is the highest part that its check
has read so far, and a check hits if the part that it reads lies above all of those.
-/

namespace Almanac.Filter

open Config (Check Rule)
open Calendar (Component Date)

/-- A part of a date, which one of the date checks reads. -/
inductive DatePart where
  | day | month | year
deriving DecidableEq

namespace DatePart

/-- The check that reads the part. -/
def check : DatePart → Check
  | day => .firstOfDay
  | month => .firstOfMonth
  | year => .firstOfYear

/-- The part as a number. -/
def read : DatePart → Date → Int
  | day, date => date.day
  | month, date => date.month
  | year, date => date.year

/-- The part of the start date of an event, if it has one. -/
def ofEvent? (u : DatePart) (event : Component) : Option Int := event.startDay?.map u.read

/-- What an evaluation reads for the mark of this part. -/
def reading? (u : DatePart) (rule : Rule) (event : Component) : Option Int :=
  if rule.check = u.check then u.ofEvent? event else none

end DatePart

/-- The mark of the check that reads this part. -/
def Watermark.mark (w : Watermark) : DatePart → Option Int
  | .day => w.day.map Int.ofNat
  | .month => w.month.map Int.ofNat
  | .year => w.year

/-- The mark after a number may have been seen. -/
def raiseBy (mark : Option Int) : Option Int → Option Int
  | some n => raise mark n
  | none => mark

/-- The watermark after evaluations in order, a fresh one before them. -/
def watermarkAfter (calls : List (Rule × Component)) : Watermark :=
  calls.foldl (fun w call => (hits call.1 call.2 w).2) ∅

/-- All that evaluations have read for the mark of this part. -/
def readings (u : DatePart) (calls : List (Rule × Component)) : List Int :=
  calls.filterMap fun call => u.reading? call.1 call.2

@[simp] theorem mark_empty (u : DatePart) : (∅ : Watermark).mark u = none := by
  cases u <;> rfl

theorem watermarkAfter_concat (calls : List (Rule × Component)) (rule : Rule) (event : Component) :
    watermarkAfter (calls ++ [(rule, event)]) = (hits rule event (watermarkAfter calls)).2 := by
  simp [watermarkAfter]

theorem readings_concat (u : DatePart) (calls : List (Rule × Component)) (rule : Rule)
    (event : Component) :
    readings u (calls ++ [(rule, event)]) = readings u calls ++ (u.reading? rule event).toList := by
  unfold readings
  cases hread : u.reading? rule event <;> simp [hread]

/-! ## Marks and maxima -/

theorem isAbove_ofNat (mark : Option Nat) (n : Nat) :
    isAbove (mark.map Int.ofNat) (n : Int) = isAbove mark n := by
  cases mark with
  | none => rfl
  | some m => simp [isAbove]

theorem raise_ofNat (mark : Option Nat) (n : Nat) :
    raise (mark.map Int.ofNat) (n : Int) = (raise mark n).map Int.ofNat := by
  unfold raise
  rw [isAbove_ofNat]
  split <;> rfl

theorem isAbove_max? (seen : List Int) (n : Int) :
    isAbove seen.max? n = true ↔ ∀ m ∈ seen, m < n := by
  cases hmax : seen.max? with
  | none =>
      rw [List.max?_eq_none_iff.mp hmax]
      simp [isAbove]
  | some top =>
      obtain ⟨hmem, hle⟩ := List.max?_eq_some_iff.mp hmax
      simp only [isAbove, decide_eq_true_eq]
      exact ⟨fun hlt m hm => Int.lt_of_le_of_lt (hle m hm) hlt, fun hall => hall top hmem⟩

theorem raise_max? (seen : List Int) (n : Int) : raise seen.max? n = (seen ++ [n]).max? := by
  symm
  unfold raise
  split
  next habove =>
    rw [List.max?_eq_some_iff]
    refine ⟨by simp, fun m hm => ?_⟩
    rcases List.mem_append.mp hm with hm | hm
    · exact Int.le_of_lt ((isAbove_max? seen n).mp habove m hm)
    · exact Int.le_of_eq (List.mem_singleton.mp hm)
  next hbelow =>
    cases hmax : seen.max? with
    | none => simp [hmax, isAbove] at hbelow
    | some top =>
        obtain ⟨hmem, hle⟩ := List.max?_eq_some_iff.mp hmax
        rw [List.max?_eq_some_iff]
        refine ⟨List.mem_append_left _ hmem, fun m hm => ?_⟩
        rcases List.mem_append.mp hm with hm | hm
        · exact hle m hm
        · rw [List.mem_singleton.mp hm]
          simpa [hmax, isAbove] using hbelow

theorem raiseBy_max? (seen : List Int) (n? : Option Int) :
    raiseBy seen.max? n? = (seen ++ n?.toList).max? := by
  cases n? with
  | none => rw [Option.toList_none, List.append_nil, raiseBy]
  | some n => exact raise_max? seen n

/-! ## Single evaluations -/

/-- A date check hits above its mark, and raises it. -/
theorem evaluate_of_check (u : DatePart) (rule : Rule) (event : Component) (w : Watermark)
    (hcheck : rule.check = u.check) :
    (event.startDay? = none → evaluate rule event w = .error .noStartTime) ∧
      ∀ date, event.startDay? = some date →
        ∃ w', evaluate rule event w = .ok (isAbove (w.mark u) (u.read date), w') ∧
          w'.mark u = raise (w.mark u) (u.read date) := by
  refine ⟨fun hnone => ?_, fun date hdate => ?_⟩
  · cases u <;> simp only [evaluate, hcheck, DatePart.check, startDay, hnone] <;> rfl
  · cases u with
    | day =>
        refine ⟨{ w with day := raise w.day date.day }, ?_, (raise_ofNat w.day date.day).symm⟩
        simp only [evaluate, hcheck, DatePart.check, startDay, hdate]
        exact congrArg (fun hit => Except.ok (hit, _)) (isAbove_ofNat w.day date.day).symm
    | month =>
        refine ⟨{ w with month := raise w.month date.month }, ?_,
          (raise_ofNat w.month date.month).symm⟩
        simp only [evaluate, hcheck, DatePart.check, startDay, hdate]
        exact congrArg (fun hit => Except.ok (hit, _)) (isAbove_ofNat w.month date.month).symm
    | year =>
        refine ⟨{ w with year := raise w.year date.year }, ?_, rfl⟩
        simp only [evaluate, hcheck, DatePart.check, startDay, hdate]
        rfl

/-- A check of another kind leaves the mark alone. -/
theorem evaluate_mark_of_ne (u : DatePart) (rule : Rule) (event : Component) (w : Watermark)
    (hcheck : rule.check ≠ u.check) {r : Bool × Watermark} (hr : evaluate rule event w = .ok r) :
    r.2.mark u = w.mark u := by
  unfold evaluate at hr
  split at hr
  next => cases hfield : containsAny rule event <;> rw [hfield] at hr <;> cases hr; rfl
  next => cases hfield : containsAny rule event <;> rw [hfield] at hr <;> cases hr; rfl
  next => cases hfield : equalsAny rule event <;> rw [hfield] at hr <;> cases hr; rfl
  next => cases hfield : equalsAny rule event <;> rw [hfield] at hr <;> cases hr; rfl
  next hday =>
    cases hdate : startDay event <;> rw [hdate] at hr <;> cases hr
    cases u <;> first | rfl | exact absurd hday hcheck
  next hmonth =>
    cases hdate : startDay event <;> rw [hdate] at hr <;> cases hr
    cases u <;> first | rfl | exact absurd hmonth hcheck
  next hyear =>
    cases hdate : startDay event <;> rw [hdate] at hr <;> cases hr
    cases u <;> first | rfl | exact absurd hyear hcheck

theorem hits_mark_of_ne (u : DatePart) (rule : Rule) (event : Component) (w : Watermark)
    (hcheck : rule.check ≠ u.check) : (hits rule event w).2.mark u = w.mark u := by
  unfold hits
  split
  next r hr => exact evaluate_mark_of_ne u rule event w hcheck hr
  next => rfl

theorem hits_of_check (u : DatePart) (rule : Rule) (event : Component) (w : Watermark)
    (hcheck : rule.check = u.check) :
    (hits rule event w).1 = (u.ofEvent? event).any (isAbove (w.mark u)) ∧
      (hits rule event w).2.mark u = raiseBy (w.mark u) (u.ofEvent? event) := by
  have heval := evaluate_of_check u rule event w hcheck
  cases hdate : event.startDay? with
  | none => simp [hits, heval.1 hdate, DatePart.ofEvent?, hdate, raiseBy]
  | some date =>
      obtain ⟨w', hw', hmark⟩ := heval.2 date hdate
      simp [hits, hw', DatePart.ofEvent?, hdate, hmark, raiseBy]

/-! ## Histories -/

/-- A mark is the highest of what its check has read. -/
theorem mark_watermarkAfter (u : DatePart) (calls : List (Rule × Component)) :
    (watermarkAfter calls).mark u = (readings u calls).max? := by
  induction calls using List.reverseRecOn with
  | nil => exact mark_empty u
  -- The last evaluation raises the mark if it is of this kind and could read the part.
  | append_singleton calls call ih =>
      obtain ⟨rule, event⟩ := call
      rw [watermarkAfter_concat, readings_concat]
      unfold DatePart.reading?
      split
      next hcheck =>
        rw [(hits_of_check u rule event _ hcheck).2, ih]
        exact raiseBy_max? _ _
      next hcheck =>
        rw [hits_mark_of_ne u rule event _ hcheck, ih]
        simp

end Almanac.Filter
