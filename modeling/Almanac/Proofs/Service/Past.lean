import Almanac.Proofs.Service.Endings

/-!
# Books tell of the past

Time does not run backwards while the main flow acts, and nothing is written into the book of a
ticker before it happens.
-/

namespace Almanac.Service

open Config (Output)

namespace World

/-! ## Entries of a book -/

section Books

variable {n : Nat}

theorem time_of_mem_note {owner : Owner} {time : Nat} {deed : Deed} {e : Entry}
    (he : e ∈ note n owner time deed) : e.time = time := by
  cases owner with
  | background slot => cases he
  | ticker slot due interval =>
      simp only [note] at he
      split at he
      next => rw [List.mem_singleton.mp he]
      next => cases he

/-- What is written down happens now. -/
def WritesNow (entries : Owner → World → List Entry) : Prop :=
  ∀ owner w, ∀ e ∈ entries owner w, e.time = w.now

theorem time_of_mem_pauseBook {again : Owner → World → List Entry} (hagain : WritesNow again)
    {owner : Owner} {cache : Nat} {paused : Pause × World} {e : Entry}
    (he : e ∈ pauseBook n again owner cache paused) : e.time = paused.2.now := by
  obtain ⟨pause, w⟩ := paused
  cases pause with
  | waits due c outcome => exact time_of_mem_note he
  | ended r =>
      rcases List.mem_append.mp he with he | he
      · exact time_of_mem_note he
      · cases owner with
        | background slot => cases he
        | ticker slot due interval =>
            simp only at he
            split at he
            next => exact (hagain _ (w.closeRefresh cache r) e he).trans rfl
            next => cases he

theorem writesNow_refreshBook {again : Owner → World → List Entry} (hagain : WritesNow again)
    (cache : Nat) (o : Output) : WritesNow fun owner w => refreshBook n again owner cache o w := by
  intro owner w e he
  rcases List.mem_append.mp he with he | he
  · exact time_of_mem_note he
  · rw [time_of_mem_pauseBook hagain he]
    exact (talks_beginCycle _ .refresh o).now_eq

theorem writesNow_lateBook (cache : Nat) (o : Output) : WritesNow (lateBook n cache o) :=
  writesNow_refreshBook (fun _ _ _ hnone => by cases hnone) cache o

theorem time_of_mem_taskBook {w : World} {task : Task} {e : Entry} (he : e ∈ w.taskBook n task) :
    e.time = w.now := by
  cases task with
  | refresh owner cache o =>
      exact writesNow_refreshBook (writesNow_lateBook cache o) cache o owner w e he
  | resume owner cache c outcome =>
      rw [time_of_mem_pauseBook (writesNow_lateBook cache c.output) he]
      exact (talks_resumeCycle w c outcome).now_eq
  | deliver => cases he
  | ticker => cases he

theorem time_of_mem_tasksBook {tasks : List Task} {w : World} {e : Entry}
    (he : e ∈ tellTasks (taskBook n) tasks w) : e.time = w.now := by
  induction tasks generalizing w with
  | nil => cases he
  | cons task tasks ih =>
      rcases List.mem_append.mp he with he | he
      · exact time_of_mem_taskBook he
      · rw [ih he, (ran_runTask w task).now_eq]

theorem time_of_mem_roundBook {w : World} {e : Entry} (he : e ∈ w.tellRound (taskBook n)) :
    e.time = w.now :=
  (time_of_mem_tasksBook (w := { w with ready := [] }) he).trans rfl

theorem time_of_mem_settleBook {w : World} {e : Entry} (he : e ∈ w.tellSettle (taskBook n)) :
    e.time = w.now := by
  rcases List.mem_append.mp he with he | he
  · exact time_of_mem_roundBook he
  · exact (time_of_mem_roundBook he).trans (ran_runRound w).now_eq

theorem now_waitUntil (fuel time : Nat) (w : World) : (waitUntil fuel time w).now = time := by
  induction fuel generalizing w with
  | zero => rfl
  | succ fuel ih =>
      simp only [waitUntil]
      split
      next =>
        split
        next => exact ih _
        next => rfl
      next => rfl

theorem time_le_of_mem_waitBook {fuel time : Nat} {w : World} (hnow : w.now ≤ time) {e : Entry}
    (he : e ∈ tellWait (taskBook n) fuel time w) : e.time ≤ time := by
  induction fuel generalizing w with
  | zero => exact (time_of_mem_settleBook he).trans_le hnow
  | succ fuel ih =>
      rcases List.mem_append.mp he with he | he
      · exact (time_of_mem_settleBook he).trans_le hnow
      · split at he
        next t _ =>
          split at he
          next hlt => exact ih (Nat.le_of_lt hlt) he
          next => cases he
        next => cases he

/-- Time does not run backwards, and nothing is written down before it happens. -/
theorem Awaits.time_le_of_mem_joinBook {m interval tickers : Nat} {φ : Phase} {w : World}
    (hw : w.Awaits m interval tickers φ) (slot fuel : Nat) :
    w.now ≤ (World.joinSlot slot fuel w).now ∧
      ∀ e ∈ tellJoin (taskBook n) slot fuel w, e.time ≤ (World.joinSlot slot fuel w).now := by
  induction fuel generalizing w φ with
  | zero => exact ⟨Nat.le_refl _, fun e he => by cases he⟩
  | succ fuel ih =>
      obtain ⟨⟨ψ, _, hψ⟩, hready⟩ := hw.settle
      have hsettled : ∀ e ∈ w.tellSettle (taskBook n), e.time ≤ w.settle.now := fun e he =>
        hψ.now_eq ▸ Nat.le_of_eq (time_of_mem_settleBook he)
      have hquiet : w.now ≤ w.settle.now ∧ ∀ e ∈ w.tellSettle (taskBook n), e.time ≤ w.settle.now :=
        ⟨Nat.le_of_eq hψ.now_eq.symm, hsettled⟩
      rcases hslot : w.results[slot]? with _ | _ | r
      · simp [World.joinSlot, tellJoin, hslot]
      · rcases hresult : w.settle.results[slot]? with _ | _ | r
        · simpa [World.joinSlot, tellJoin, hslot, hresult] using hquiet
        · cases hnext : w.settle.nextTime? with
          | none => simpa [World.joinSlot, tellJoin, hslot, hresult, hnext] using hquiet
          | some soonest =>
              obtain ⟨⟨t, ht, rfl⟩, hsoonest⟩ := nextTime?_eq_some hnext
              obtain ⟨hlater, hbook⟩ := ih (hψ.moveTo hready hsoonest)
              have hnow : w.now ≤ (World.joinSlot slot fuel (w.settle.moveTo t.due)).now :=
                Nat.le_trans (Nat.le_of_lt (hψ.ahead t ht)) hlater
              simp only [World.joinSlot, tellJoin, hslot, hresult, hnext]
              refine ⟨hnow, fun e he => ?_⟩
              rcases List.mem_append.mp he with he | he
              · exact (time_of_mem_settleBook he).trans_le hnow
              · exact hbook e he
        · simpa [World.joinSlot, tellJoin, hslot, hresult] using hquiet
      · simp [World.joinSlot, tellJoin, hslot]

theorem Awaits.time_le_of_mem_actBook {m interval tickers : Nat} {φ : Phase} {w : World}
    (hw : w.Awaits m interval tickers φ) (a : Act) :
    w.now ≤ (w.act a).now ∧ ∀ e ∈ w.tellAct (taskBook n) a, e.time ≤ (w.act a).now := by
  have hquiet {w' : World} (hnow : w'.now = w.now) :
      w.now ≤ w'.now ∧ ∀ e ∈ ([] : List Entry), e.time ≤ w'.now :=
    ⟨Nat.le_of_eq hnow.symm, fun e he => by cases he⟩
  cases a with
  | sleep seconds =>
      simp only [World.act, World.sleep, tellAct, tellSleep]
      split
      next => exact hquiet rfl
      next =>
        rw [now_waitUntil]
        exact ⟨Nat.le_add_right _ _, fun e he =>
          time_le_of_mem_waitBook (Nat.le_add_right _ _) he⟩
  | settle =>
      have hnow : w.settle.now = w.now := (ran_settle w).1.now_eq
      exact ⟨Nat.le_of_eq hnow.symm, fun e he =>
        Nat.le_of_eq ((time_of_mem_settleBook he).trans hnow.symm)⟩
  | join slot fuel => exact hw.time_le_of_mem_joinBook slot fuel
  | «begin» purpose o => exact hquiet (talks_beginCycle w purpose o).now_eq
  | resume c outcome => exact hquiet (talks_resumeCycle w c outcome).now_eq
  | carryOut effects => exact hquiet (talks_applyAll w effects).now_eq
  | _ => exact hquiet rfl

theorem Awaits.time_le_of_mem_book {m interval tickers : Nat} {φ : Phase} {w : World}
    (hw : w.Awaits m interval tickers φ) (acts : List Act) (hother : tickers + spawns acts ≤ m) :
    w.now ≤ (w.actAll acts).now ∧ ∀ e ∈ w.book n acts, e.time ≤ (w.actAll acts).now := by
  induction acts generalizing w tickers φ with
  | nil => exact ⟨Nat.le_refl _, fun e he => by cases he⟩
  | cons a acts ih =>
      have hspawns : spawns (a :: acts) = a.spawns + spawns acts := rfl
      rw [hspawns] at hother
      obtain ⟨ψ, _, hψ⟩ := hw.act a (by omega)
      obtain ⟨hact, hactBook⟩ := hw.time_le_of_mem_actBook (n := n) a
      obtain ⟨hrest, hrestBook⟩ := ih hψ (by omega)
      refine ⟨Nat.le_trans hact hrest, fun e he => ?_⟩
      rcases List.mem_append.mp he with he | he
      · exact Nat.le_trans (hactBook e he) hrest
      · exact hrestBook e he

variable (tools : Nat → Tools) (plans : Dictionary Plan) (sinks : List Sink)

theorem time_le_of_mem_book_quiet (acts : List Act) :
    ∀ e ∈ (quiet tools plans sinks).book n acts,
      e.time ≤ ((quiet tools plans sinks).actAll acts).now :=
  ((awaits_quiet (spawns acts) 0 tools plans sinks).time_le_of_mem_book acts
    (Nat.le_of_eq (Nat.zero_add _))).2

theorem now_le_actAll_append (first second : List Act) :
    ((quiet tools plans sinks).actAll first).now ≤
      ((quiet tools plans sinks).actAll (first ++ second)).now := by
  obtain ⟨φ, _, hw⟩ := (awaits_quiet (spawns (first ++ second)) 0 tools plans sinks).actAll first
    (.inr (by rw [spawns_append]; omega))
  rw [actAll_append]
  exact (hw.time_le_of_mem_book (n := 0) second (by rw [spawns_append]; omega)).1

end Books

end World

end Almanac.Service
