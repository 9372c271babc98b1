import Almanac.Notify.Delivery
import Mathlib.Algebra.BigOperators.Group.List.Basic
import Mathlib.Tactic.IntervalCases

/-!
# Attempts of a delivery

A delivery is tried again until an attempt is accepted, up to a number of attempts that lies
between one and eight. The attempts are told by their counters, which run from one without a gap.
All else that a delivery does follows from them: what is posted, how long is waited after each
attempt but the last, and the reply that ends it.
-/

namespace Almanac.Notify

/-- The counters of the attempts that are made, of which `left` may fail before the last. -/
def countersFrom (replies : Nat → Reply) : (left : Nat) → (attempt : UInt8) → List UInt8
  | 0, attempt => [attempt]
  | left + 1, attempt =>
    if (replies attempt.toNat).isAccepted then [attempt]
    else attempt :: countersFrom replies left (attempt + 1)

/-- The counters of the attempts of a delivery with up to `attempts` attempts. -/
def counters (attempts : UInt8) (replies : Nat → Reply) : List UInt8 :=
  countersFrom replies (attempts.toNat - 1) 1

/-- The first reply that is accepted is the one of this number. Replies are counted from one. -/
structure IsFirstAccepted (replies : Nat → Reply) (i : Nat) : Prop where
  pos : 1 ≤ i
  accepted : (replies i).isAccepted = true
  before : ∀ k, 1 ≤ k → k < i → (replies k).isAccepted = false

/-- Of up to `most` attempts this one is the last: all before it have failed, and it is accepted
unless there may be no more. -/
structure IsLastAttempt (replies : Nat → Reply) (most n : Nat) : Prop where
  pos : 1 ≤ n
  le : n ≤ most
  before : ∀ k, 1 ≤ k → k < n → (replies k).isAccepted = false
  accepted : n < most → (replies n).isAccepted = true

namespace IsLastAttempt

variable {replies : Nat → Reply} {most n : Nat}

theorem eq_most (hn : IsLastAttempt replies most n) (hfailed : (replies n).isAccepted = false) :
    n = most := by
  by_contra hne
  have haccepted := hn.accepted (Nat.lt_of_le_of_ne hn.le hne)
  exact Bool.noConfusion (haccepted.symm.trans hfailed)

/-- No attempt goes beyond the first reply that is accepted, and none stops before it. -/
theorem eq_min (hn : IsLastAttempt replies most n) {i : Nat} (hi : IsFirstAccepted replies i) :
    n = min most i := by
  have hle : n ≤ i := by
    by_contra hlt
    have hfailed := hn.before i hi.pos (Nat.lt_of_not_le hlt)
    exact Bool.noConfusion (hi.accepted.symm.trans hfailed)
  rcases Nat.lt_or_eq_of_le hle with hlt | rfl
  · have hmost := hn.eq_most (hi.before n hn.pos hlt)
    omega
  · exact (Nat.min_eq_right hn.le).symm

/-- The last attempt is accepted if any is that may be made. -/
theorem accepted_iff (hn : IsLastAttempt replies most n) :
    (replies n).isAccepted = true ↔ ∃ k, 1 ≤ k ∧ k ≤ most ∧ (replies k).isAccepted = true := by
  constructor
  · exact fun haccepted => ⟨n, hn.pos, hn.le, haccepted⟩
  · rintro ⟨k, hk, hmost, hreply⟩
    by_contra hfailed
    rw [Bool.not_eq_true] at hfailed
    have hlast := hn.eq_most hfailed
    -- Such an attempt is not the last, so it has failed as all before the last.
    have hne : k ≠ n := by
      rintro rfl
      exact Bool.noConfusion (hreply.symm.trans hfailed)
    exact Bool.noConfusion (hreply.symm.trans (hn.before k hk (by omega)))

end IsLastAttempt

/-! ## Counters -/

section Counters

variable {replies : Nat → Reply}

/-- Each attempt posts the message, each but the last is followed by its wait, and the last one ends
the delivery. -/
theorem deliverFrom_eq (post : Post) (replies : Nat → Reply) (left : Nat) (attempt : UInt8) :
    ∃ before last, countersFrom replies left attempt = before ++ [last] ∧
      deliverFrom post replies left attempt =
        ⟨List.replicate (before.length + 1) post, before.map backoff, replies last.toNat⟩ := by
  induction left generalizing attempt with
  | zero => exact ⟨[], attempt, rfl, rfl⟩
  | succ left ih =>
      unfold countersFrom deliverFrom
      split
      next => exact ⟨[], attempt, rfl, rfl⟩
      next =>
        obtain ⟨before, last, hcounters, hrest⟩ := ih (attempt + 1)
        refine ⟨attempt :: before, last, congrArg (attempt :: ·) hcounters, ?_⟩
        rw [hrest]
        rfl

/-- As long as they fit into a byte the counters are the numbers from the first on. All attempts
before the last have failed, and the last is accepted unless there may be no more. -/
theorem countersFrom_spec (replies : Nat → Reply) (left : Nat) (attempt : UInt8)
    (hfits : attempt.toNat + left < 256) :
    ∃ failed ≤ left,
      (countersFrom replies left attempt).map UInt8.toNat =
          List.range' attempt.toNat (failed + 1) ∧
        (∀ k < failed, (replies (attempt.toNat + k)).isAccepted = false) ∧
        (failed < left → (replies (attempt.toNat + failed)).isAccepted = true) := by
  induction left generalizing attempt with
  | zero => exact ⟨0, Nat.le_refl 0, rfl, fun k hk => absurd hk k.not_lt_zero,
      fun hlt => absurd hlt (Nat.lt_irrefl 0)⟩
  | succ left ih =>
      unfold countersFrom
      split
      next haccepted =>
        exact ⟨0, Nat.zero_le _, rfl, fun k hk => absurd hk k.not_lt_zero, fun _ => haccepted⟩
      next hfailed =>
        have hnext : (attempt + 1).toNat = attempt.toNat + 1 := by
          rw [UInt8.toNat_add, UInt8.toNat_one]
          omega
        obtain ⟨failed, hle, hcounters, hbefore, hlast⟩ := ih (attempt + 1) (by omega)
        rw [hnext] at hcounters hbefore hlast
        refine ⟨failed + 1, Nat.succ_le_succ hle, ?_, fun k hk => ?_, fun hlt => ?_⟩
        · rw [List.map_cons, hcounters]
          exact List.range'_succ.symm
        · cases k with
          | zero => simpa using hfailed
          | succ k =>
              have hrest := hbefore k (Nat.lt_of_succ_lt_succ hk)
              rwa [Nat.add_right_comm] at hrest
        · have hrest := hlast (Nat.lt_of_succ_lt_succ hlt)
          rwa [Nat.add_right_comm] at hrest

end Counters

/-! ## Waits -/

/-- A counter between one and eight gives a wait that neither loses a bit nor shifts too far. -/
theorem backoff_toNat {c : UInt8} (hpos : 1 ≤ c.toNat) (hmost : c.toNat ≤ 8) :
    (c - 1).toNat + 1 = c.toNat ∧ (c - 1).toNat < 64 ∧
      (backoff c).toNat = 500 * 2 ^ (c.toNat - 1) := by
  obtain ⟨k, hk⟩ : ∃ k, c.toNat = k := ⟨_, rfl⟩
  obtain rfl : c = UInt8.ofNat k := by rw [← hk, UInt8.ofNat_toNat]
  rw [hk] at hpos hmost
  clear hk
  interval_cases k <;> decide

theorem sum_doubling (n : Nat) :
    ((List.range n).map fun k => 500 * 2 ^ k).sum = 500 * (2 ^ n - 1) := by
  induction n with
  | zero => rfl
  | succ n ih =>
      have hpos : 1 ≤ 2 ^ n := Nat.one_le_two_pow
      rw [List.range_succ, List.map_append, List.sum_append, ih, List.map_singleton,
        List.sum_singleton, Nat.pow_succ]
      omega

/-- The waits of attempts whose counters run from one. -/
theorem map_backoff {before : List UInt8} {n : Nat}
    (hcounters : before.map UInt8.toNat = List.range' 1 n) (hmost : n ≤ 8) :
    (before.map backoff).map UInt64.toNat = (List.range n).map fun k => 500 * 2 ^ k := by
  have hwaits : (before.map backoff).map UInt64.toNat =
      (before.map UInt8.toNat).map fun c => 500 * 2 ^ (c - 1) := by
    rw [List.map_map, List.map_map]
    refine List.map_congr_left fun c hc => ?_
    have hmem : c.toNat ∈ List.range' 1 n := hcounters ▸ List.mem_map_of_mem hc
    obtain ⟨hpos, hlt⟩ := List.mem_range'_1.mp hmem
    exact (backoff_toNat hpos (by omega)).2.2
  rw [hwaits, hcounters, List.range'_eq_map_range, List.map_map]
  refine List.map_congr_left fun k _ => ?_
  simp

/-! ## Settings -/

theorem attemptsOf_toNat (setting : UInt8) :
    (attemptsOf setting).toNat = max 1 (min setting.toNat 8) := by
  unfold attemptsOf mostAttempts
  rw [UInt8.toNat_max, UInt8.toNat_min]
  rfl

/-- However it is set, the number of attempts lies between one and eight. -/
theorem attempts_bounds (setting : Option UInt8) :
    let attempts := setting.elim usualAttempts attemptsOf
    attempts.toNat = setting.elim 3 (fun r => max 1 (min r.toNat 8)) ∧
      1 ≤ attempts.toNat ∧ attempts.toNat ≤ 8 := by
  cases setting with
  | none => decide
  | some r =>
      intro attempts
      have hattempts : attempts.toNat = max 1 (min r.toNat 8) := attemptsOf_toNat r
      rw [hattempts]
      exact ⟨rfl, by omega, by omega⟩

/-- A delivery has posted the message with each of its attempts, has waited between them, and ends
with the reply to the last. -/
theorem deliver_spec (post : Post) (attempts : UInt8) (replies : Nat → Reply)
    (hpos : 1 ≤ attempts.toNat) (hmost : attempts.toNat ≤ 8) :
    let d := deliver post attempts replies
    ∃ n, IsLastAttempt replies attempts.toNat n ∧
      (counters attempts replies).map UInt8.toNat = List.range' 1 n ∧
      d.posts = List.replicate n post ∧
      d.waits.map UInt64.toNat = (List.range (n - 1)).map (fun k => 500 * 2 ^ k) ∧
      d.final = replies n := by
  intro d
  obtain ⟨before, last, hcounters, hended⟩ :=
    deliverFrom_eq post replies (attempts.toNat - 1) 1
  have hd : d = ⟨List.replicate (before.length + 1) post, before.map backoff,
      replies last.toNat⟩ := hended
  obtain ⟨failed, hle, hnumbers, hbefore, hlast⟩ :=
    countersFrom_spec replies (attempts.toNat - 1) 1 (by rw [UInt8.toNat_one]; omega)
  rw [UInt8.toNat_one, Nat.add_comm 1 failed] at hlast
  rw [UInt8.toNat_one] at hnumbers hbefore
  have hsplit : before.map UInt8.toNat = List.range' 1 failed ∧ last.toNat = failed + 1 := by
    rw [hcounters, List.map_append, List.range'_concat] at hnumbers
    obtain ⟨hinit, hend⟩ := List.append_inj' hnumbers rfl
    refine ⟨hinit, ?_⟩
    simpa [Nat.add_comm] using hend
  have hlength : before.length = failed := by
    simpa using congrArg List.length hsplit.1
  have hlastAttempt : IsLastAttempt replies attempts.toNat (failed + 1) :=
    { pos := Nat.succ_pos failed
      le := by omega
      before := fun k hk hlt => by
        have hfailed := hbefore (k - 1) (by omega)
        rwa [Nat.add_sub_cancel' hk] at hfailed
      accepted := fun hlt => hlast (by omega) }
  refine ⟨failed + 1, hlastAttempt, hnumbers, ?_, ?_, ?_⟩
  · rw [hd, hlength]
  · rw [hd, Nat.add_sub_cancel]
    exact map_backoff hsplit.1 (by omega)
  · rw [hd, hsplit.2]

/-- A delivery is bounded and exact. With a setting the number of attempts is kept between one and
eight, without one it is three. The message is posted, always the same, until an attempt is
accepted or as often as allowed. The delivery succeeds just if one of the attempts that are allowed
does, and ends with the reply to the last of these if not. After the failed attempt of number `k` it
waits `500 * 2 ^ (k - 1)` milliseconds if another one follows, which makes `500 * (2 ^ (n - 1) - 1)`
for `n` attempts. The counters of the attempts are the numbers from one on, and in reckoning the
wait of an attempt nothing is lost. -/
theorem delivery_is_bounded_and_exact (setting : Option UInt8) (address message : String)
    (replies : Nat → Reply) :
    let attempts := setting.elim usualAttempts attemptsOf
    let most := setting.elim 3 fun r => max 1 (min r.toNat 8)
    let d := send .discord address message attempts replies
    let n := d.posts.length
    (∀ i, IsFirstAccepted replies i → n = min most i) ∧
      ((∀ i, 1 ≤ i → (replies i).isAccepted = false) → n = most) ∧
      d.posts = List.replicate n ⟨address, payload message .discord⟩ ∧
      (d.isAccepted = true ↔ ∃ k, 1 ≤ k ∧ k ≤ most ∧ (replies k).isAccepted = true) ∧
      (d.isAccepted = false → d.final = replies most) ∧
      d.waits.map UInt64.toNat = (List.range (n - 1)).map (fun k => 500 * 2 ^ k) ∧
      (d.waits.map UInt64.toNat).sum = 500 * (2 ^ (n - 1) - 1) ∧
      (counters attempts replies).map UInt8.toNat = List.range' 1 n ∧
      ∀ c ∈ counters attempts replies, (c - 1).toNat + 1 = c.toNat ∧ (c - 1).toNat < 64 ∧
        (backoff c).toNat = 500 * 2 ^ (c.toNat - 1) := by
  intro attempts most d n
  obtain ⟨hmost, hpos, hle⟩ : attempts.toNat = most ∧ 1 ≤ attempts.toNat ∧ attempts.toNat ≤ 8 :=
    attempts_bounds setting
  obtain ⟨k, hlast, hcounters, hposts, hwaits, hfinal⟩ :=
    deliver_spec ⟨address, payload message .discord⟩ attempts replies hpos hle
  rw [hmost] at hlast hle
  have hn : n = k := by
    have hlength := congrArg List.length hposts
    rwa [List.length_replicate] at hlength
  obtain rfl := hn
  have haccepted : d.isAccepted = (replies n).isAccepted := congrArg Reply.isAccepted hfinal
  refine ⟨fun i hi => hlast.eq_min hi, fun hnone => ?_, hposts, ?_, fun hd => ?_, hwaits,
    hwaits ▸ sum_doubling (n - 1), hcounters, fun c hc => ?_⟩
  · exact hlast.eq_most (hnone n hlast.pos)
  · rw [haccepted]
    exact hlast.accepted_iff
  · rw [haccepted] at hd
    exact hlast.eq_most hd ▸ hfinal
  · have hmem : c.toNat ∈ List.range' 1 n := hcounters ▸ List.mem_map_of_mem hc
    obtain ⟨hone, hlt⟩ := List.mem_range'_1.mp hmem
    have hnle := hlast.le
    exact backoff_toNat hone (by omega)

/-- Two refusals are followed by their waits, and the third attempt is the last. -/
example :
    let replies : Nat → Reply := fun n => if n = 1 then .dropped else .status (500 + n)
    let d := send .discord "https://hook" "Done" usualAttempts replies
    d.waits = [500, 1000] ∧ d.final = .status 503 := by
  decide

end Almanac.Notify
