import Mathlib.Data.List.Chain
import Almanac.Service.Timetable

/-!
# Phases of a ticker

What a ticker does is told by a book: when its refreshes begin, how long each fetch of theirs
takes, and when they end. A ticker either awaits its next refresh or works on one, and every
deed has its time in each of these phases. A book in which all deeds come at their times tells of
refreshes that begin by a timetable: one interval after the other, or at once after a refresh that
has taken longer than that.
-/

namespace Almanac.Service

/-- What a ticker does. -/
inductive Deed where
  | begins
  /-- A feed of the refresh under way is fetched, which takes some seconds. -/
  | fetches (seconds : Nat)
  | ends
deriving DecidableEq

/-- A deed and its time. -/
structure Entry where
  time : Nat
  deed : Deed
deriving DecidableEq

/-- What a ticker is about to do. -/
inductive Phase where
  /-- There is no such ticker, or it has stopped. -/
  | absent
  | awaits (due : Nat)
  /-- A refresh has begun, and its fetches take some seconds in all. -/
  | works (start spent : Nat)
deriving DecidableEq

namespace Phase

/-- The phase after a deed, if the deed comes at its time. -/
def next? (interval : Nat) : Phase → Entry → Option Phase
  | .awaits due, ⟨time, .begins⟩ => if time = due then some (.works due 0) else none
  | .works start spent, ⟨time, .fetches seconds⟩ =>
    if time = start + spent then some (.works start (spent + seconds)) else none
  | .works start spent, ⟨time, .ends⟩ =>
    if time = start + spent then some (.awaits (start + max interval spent)) else none
  | _, _ => none

/-- The phase after a book in which every deed comes at its time. -/
def run? (interval : Nat) (φ : Phase) (book : List Entry) : Option Phase :=
  book.foldlM (next? interval) φ

/-- The time of the next deed. -/
def time? : Phase → Option Nat
  | .absent => none
  | .awaits due => some due
  | .works start spent => some (start + spent)

/-- The time at which the next refresh begins, if none is under way. -/
def dueTimes : Phase → List Nat
  | .awaits due => [due]
  | _ => []

theorem run?_cons (interval : Nat) (φ : Phase) (entry : Entry) (book : List Entry) :
    φ.run? interval (entry :: book) =
      (φ.next? interval entry).bind fun ψ => ψ.run? interval book :=
  List.foldlM_cons

/-- A book in which every deed comes at its time leads to a phase of which this holds. -/
def Leads (interval : Nat) (φ : Phase) (book : List Entry) (P : Phase → Prop) : Prop :=
  ∃ ψ, φ.run? interval book = some ψ ∧ P ψ

theorem Leads.now {interval : Nat} {φ : Phase} {P : Phase → Prop} (hφ : P φ) :
    φ.Leads interval [] P :=
  ⟨φ, rfl, hφ⟩

theorem Leads.andThen {interval : Nat} {φ : Phase} {first second : List Entry}
    {P Q : Phase → Prop} (hfirst : φ.Leads interval first P)
    (hsecond : ∀ ψ, P ψ → ψ.Leads interval second Q) : φ.Leads interval (first ++ second) Q := by
  obtain ⟨ψ, hrun, hψ⟩ := hfirst
  obtain ⟨χ, hrest, hχ⟩ := hsecond ψ hψ
  refine ⟨χ, ?_, hχ⟩
  rw [run?, List.foldlM_append]
  exact Option.bind_eq_some_iff.mpr ⟨ψ, hrun, hrest⟩

theorem exists_time_of_run? {interval : Nat} {book : List Entry} {φ ψ : Phase}
    (hφ : φ ≠ absent) (hrun : φ.run? interval book = some ψ) : ∃ time, ψ.time? = some time := by
  induction book generalizing φ with
  | nil =>
      obtain rfl := Option.some.inj hrun
      cases φ with
      | absent => exact absurd rfl hφ
      | awaits due => exact ⟨due, rfl⟩
      | works start spent => exact ⟨start + spent, rfl⟩
  | cons entry book ih =>
      rw [run?_cons, Option.bind_eq_some_iff] at hrun
      obtain ⟨χ, hnext, hrest⟩ := hrun
      refine ih (fun habsent => ?_) hrest
      subst habsent
      unfold next? at hnext
      split at hnext
      next => split at hnext <;> cases hnext
      next => split at hnext <;> cases hnext
      next => split at hnext <;> cases hnext
      next => cases hnext

theorem run?_absent {interval : Nat} {book : List Entry} {φ : Phase}
    (hrun : absent.run? interval book = some φ) : book = [] ∧ φ = absent := by
  cases book with
  | nil => exact ⟨rfl, (Option.some.inj hrun).symm⟩
  | cons entry book => cases hrun

end Phase

/-! ## Reading a book -/

/-- When the refreshes begin. -/
def begins (book : List Entry) : List Nat :=
  book.filterMap fun entry => if entry.deed = .begins then some entry.time else none

/-- When the refreshes end. -/
def ends (book : List Entry) : List Nat :=
  book.filterMap fun entry => if entry.deed = .ends then some entry.time else none

/-- The seconds that the fetches of each refresh take that has ended. Those of the refresh under
way have taken some already. -/
def fetchTimes : Nat → List Entry → List Nat
  | _, [] => []
  | spent, entry :: book =>
    match entry.deed with
    | .begins => fetchTimes 0 book
    | .fetches seconds => fetchTimes (spent + seconds) book
    | .ends => spent :: fetchTimes 0 book

/-- When refreshes begin that are due at intervals, if they take these times and none begins before
the one before it has ended. -/
def timetable (interval : Nat) : Nat → List Nat → List Nat
  | start, [] => [start]
  | start, spent :: rest => start :: timetable interval (start + max interval spent) rest

/-- A book of refreshes from a first one on, up to now. -/
structure KeepsTimetable (interval first now : Nat) (book : List Entry) : Prop where
  /-- The next refresh, if none is under way, is the next of the timetable, and whatever comes next
  is not overdue. -/
  begins_eq : ∃ φ : Phase, (Phase.awaits first).run? interval book = some φ ∧
    (∃ time, φ.time? = some time ∧ now ≤ time) ∧
      begins book ++ φ.dueTimes = timetable interval first (fetchTimes 0 book)
  /-- Every refresh ends when its fetches are done. -/
  ends_eq : ends book = List.zipWith (· + ·) (begins book) (fetchTimes 0 book)
  /-- Refreshes never come closer than the interval. -/
  spaced : (begins book).IsChain fun start start' => start + interval ≤ start'
  /-- Refreshes never overlap. -/
  apart : ∀ (k : Nat) (finish start : Nat), (ends book)[k]? = some finish →
    (begins book)[k + 1]? = some start → finish ≤ start

/-! ## The timetable -/

theorem timetable_head? (interval first : Nat) (spent : List Nat) :
    (timetable interval first spent).head? = some first := by
  cases spent <;> rfl

theorem timetable_spaced (interval first : Nat) (spent : List Nat) :
    (timetable interval first spent).IsChain fun start start' => start + interval ≤ start' := by
  induction spent generalizing first with
  | nil => exact .singleton _
  | cons seconds rest ih =>
      refine List.isChain_cons.mpr ⟨fun next hnext => ?_, ih _⟩
      rw [timetable_head?] at hnext
      obtain rfl := Option.some.inj hnext
      omega

/-- After a refresh the next one begins one interval later, or at once if the refresh has taken
longer than that. -/
theorem timetable_succ (interval first : Nat) (spent : List Nat) {k start seconds : Nat}
    (hstart : (timetable interval first spent)[k]? = some start)
    (hseconds : spent[k]? = some seconds) :
    (timetable interval first spent)[k + 1]? = some (start + max interval seconds) := by
  induction spent generalizing first k with
  | nil => cases hseconds
  | cons seconds' rest ih =>
      cases k with
      | zero =>
          obtain rfl := Option.some.inj hstart
          obtain rfl := Option.some.inj hseconds
          rw [timetable, List.getElem?_cons_succ, ← List.head?_eq_getElem?, timetable_head?]
      | succ k => exact ih _ hstart hseconds

example : timetable 60 150 [90, 10, 10] = [150, 240, 300, 360] := by decide

/-! ## Books by the timetable -/

/-- What a book tells that begins in some phase and ends in another. -/
def Tells (interval : Nat) (book : List Entry) (ψ : Phase) : Phase → Prop
  | .absent => True
  | .awaits due =>
    begins book ++ ψ.dueTimes = timetable interval due (fetchTimes 0 book) ∧
      ends book = List.zipWith (· + ·) (begins book) (fetchTimes 0 book)
  | .works start spent =>
    start :: begins book ++ ψ.dueTimes = timetable interval start (fetchTimes spent book) ∧
      ends book = List.zipWith (· + ·) (start :: begins book) (fetchTimes spent book)

theorem tells_of_run? {interval : Nat} {book : List Entry} {φ ψ : Phase}
    (hrun : φ.run? interval book = some ψ) : Tells interval book ψ φ := by
  induction book generalizing φ with
  | nil =>
      obtain rfl := Option.some.inj hrun
      cases φ with
      | absent => trivial
      | awaits due => exact ⟨rfl, rfl⟩
      | works start spent => exact ⟨rfl, rfl⟩
  | cons entry book ih =>
      rw [Phase.run?_cons, Option.bind_eq_some_iff] at hrun
      obtain ⟨φ', hnext, hrest⟩ := hrun
      have htells := ih hrest
      obtain ⟨time, deed⟩ := entry
      -- One case for each phase and each deed that has its time in it.
      cases φ with
      | absent => trivial
      | awaits due =>
          cases deed with
          | begins =>
              simp only [Phase.next?, Option.ite_none_right_eq_some, Option.some.injEq] at hnext
              obtain ⟨rfl, rfl⟩ := hnext
              exact htells
          | fetches => cases hnext
          | ends => cases hnext
      | works start spent =>
          cases deed with
          | begins => cases hnext
          | fetches seconds =>
              simp only [Phase.next?, Option.ite_none_right_eq_some, Option.some.injEq] at hnext
              obtain ⟨_, rfl⟩ := hnext
              exact htells
          | ends =>
              simp only [Phase.next?, Option.ite_none_right_eq_some, Option.some.injEq] at hnext
              obtain ⟨rfl, rfl⟩ := hnext
              exact ⟨congrArg (start :: ·) htells.1, congrArg ((start + spent) :: ·) htells.2⟩

/-- A book in which every deed comes at its time keeps the timetable. -/
theorem keepsTimetable_of_run? {interval first now time : Nat} {book : List Entry} {φ : Phase}
    (hrun : (Phase.awaits first).run? interval book = some φ) (htime : φ.time? = some time)
    (hnow : now ≤ time) : KeepsTimetable interval first now book := by
  obtain ⟨hbegins, hends⟩ : Tells interval book φ (.awaits first) := tells_of_run? hrun
  have hlisted : ∀ {k start : Nat}, (begins book)[k]? = some start →
      (timetable interval first (fetchTimes 0 book))[k]? = some start := by
    intro k start hstart
    have hlt : k < (begins book).length := (List.getElem?_eq_some_iff.mp hstart).1
    rw [← hbegins, List.getElem?_append_left hlt]
    exact hstart
  refine ⟨⟨φ, hrun, ⟨time, htime, hnow⟩, hbegins⟩, hends, ?_, ?_⟩
  · exact (hbegins ▸ timetable_spaced interval first (fetchTimes 0 book)).left_of_append
  · intro k finish start hfinish hstart
    rw [hends, List.getElem?_zipWith_eq_some] at hfinish
    obtain ⟨start', seconds, hstart', hseconds, rfl⟩ := hfinish
    have hnext := timetable_succ interval first _ (hlisted hstart') hseconds
    obtain rfl := Option.some.inj (hnext.symm.trans (hlisted hstart))
    omega

end Almanac.Service
