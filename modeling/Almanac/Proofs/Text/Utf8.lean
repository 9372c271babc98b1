import Mathlib.Data.List.Basic
import Almanac.Text.Utf8

/-!
# Bytes of a text

A text is read back from its bytes, and bytes that are read as a text are the bytes of that text.
So a text has one form in bytes, and none of the bytes goes lost when it is read.
-/

namespace Almanac.Text

theorem toNat_toUInt8 {n : Nat} (hn : n < 256) : n.toUInt8.toNat = n := by
  rw [Nat.toUInt8, UInt8.toNat_ofNat']
  omega

theorem eq_toUInt8 {b : UInt8} {n : Nat} (hb : b.toNat = n) : b = n.toUInt8 := by
  rw [← hb]
  exact UInt8.ofNat_toNat.symm

theorem toNat_charOfNat {n : Nat} (hn : n < 0xD800 ∨ 0xDFFF < n ∧ n < 0x110000) :
    (Char.ofNat n).toNat = n := by
  rw [Char.ofNat, dif_pos hn]
  rfl

/-! ## Characters of a number -/

theorem utf8Char_one {n : Nat} (hn : n < 0x80) : utf8Char (Char.ofNat n) = [n.toUInt8] := by
  rw [utf8Char, toNat_charOfNat (.inl (by omega)), if_pos hn]

section Written

variable {q r t u : Nat}

theorem utf8Char_two (hq : 2 ≤ q ∧ q < 32) (hr : r < 64) :
    utf8Char (Char.ofNat (q * 64 + r)) = [(0xC0 + q).toUInt8, (0x80 + r).toUInt8] := by
  have hlead : (q * 64 + r) / 64 = q := by omega
  have hlast : (q * 64 + r) % 64 = r := by omega
  rw [utf8Char, toNat_charOfNat (.inl (by omega)), if_neg (by omega), if_pos (by omega), hlead,
    hlast]

theorem utf8Char_three (hq : q < 16) (hr : r < 64) (ht : t < 64) (hlow : q = 0 → 32 ≤ r)
    (hhigh : q = 13 → r < 32) :
    utf8Char (Char.ofNat (q * 4096 + r * 64 + t)) =
      [(0xE0 + q).toUInt8, (0x80 + r).toUInt8, (0x80 + t).toUInt8] := by
  have hlead : (q * 4096 + r * 64 + t) / 4096 = q := by omega
  have hmiddle : (q * 4096 + r * 64 + t) / 64 % 64 = r := by omega
  have hlast : (q * 4096 + r * 64 + t) % 64 = t := by omega
  rw [utf8Char, toNat_charOfNat (by omega), if_neg (by omega), if_neg (by omega),
    if_pos (by omega), hlead, hmiddle, hlast]

theorem utf8Char_four (hq : q < 5) (hr : r < 64) (ht : t < 64) (hu : u < 64)
    (hlow : q = 0 → 16 ≤ r) (hhigh : q = 4 → r < 16) :
    utf8Char (Char.ofNat (q * 262144 + r * 4096 + t * 64 + u)) =
      [(0xF0 + q).toUInt8, (0x80 + r).toUInt8, (0x80 + t).toUInt8, (0x80 + u).toUInt8] := by
  have hlead : (q * 262144 + r * 4096 + t * 64 + u) / 262144 = q := by omega
  have hsecond : (q * 262144 + r * 4096 + t * 64 + u) / 4096 % 64 = r := by omega
  have hthird : (q * 262144 + r * 4096 + t * 64 + u) / 64 % 64 = t := by omega
  have hlast : (q * 262144 + r * 4096 + t * 64 + u) % 64 = u := by omega
  rw [utf8Char, toNat_charOfNat (by omega), if_neg (by omega), if_neg (by omega),
    if_neg (by omega), hlead, hsecond, hthird, hlast]

end Written

/-- A small byte of a character is the whole character. -/
theorem toNat_of_mem_utf8Char {c : Char} {b : UInt8} (hb : b ∈ utf8Char c) (hlt : b.toNat < 0x80) :
    c.toNat = b.toNat := by
  have hvalid : c.toNat < 0xD800 ∨ 0xDFFF < c.toNat ∧ c.toNat < 0x110000 := c.valid
  have hhigh {n : Nat} (hn : 0x80 ≤ n ∧ n < 256) : b ≠ n.toUInt8 := by
    rintro rfl
    rw [toNat_toUInt8 hn.2] at hlt
    omega
  unfold utf8Char at hb
  simp only at hb
  split at hb
  next =>
    obtain rfl := List.mem_singleton.mp hb
    exact (toNat_toUInt8 (by omega)).symm
  next =>
    split at hb
    next =>
      simp only [List.mem_cons, List.not_mem_nil, or_false] at hb
      rcases hb with hb | hb <;> exact absurd hb (hhigh (by omega))
    next =>
      split at hb
      next =>
        simp only [List.mem_cons, List.not_mem_nil, or_false] at hb
        rcases hb with hb | hb | hb <;> exact absurd hb (hhigh (by omega))
      next =>
        simp only [List.mem_cons, List.not_mem_nil, or_false] at hb
        rcases hb with hb | hb | hb | hb <;> exact absurd hb (hhigh (by omega))

/-! ## First bytes -/

/-- The first byte of a character of two bytes. -/
theorem utf8Lead_two {q : Nat} (hlow : 2 ≤ q) (hhigh : q < 32) :
    utf8Lead (0xC0 + q) = some (1, 0x80, 0xBF) := by
  unfold utf8Lead
  exact if_pos (by omega)

/-- The first byte of a character of three bytes. The shortest form is asked for, and surrogates
are none. -/
theorem utf8Lead_three {q : Nat} (hq : q < 16) :
    utf8Lead (0xE0 + q) =
      some (2, if q = 0 then 0xA0 else 0x80, if q = 13 then 0x9F else 0xBF) := by
  have all : ∀ q : Fin 16, utf8Lead (0xE0 + q.val) =
      some (2, if q.val = 0 then 0xA0 else 0x80, if q.val = 13 then 0x9F else 0xBF) := by decide
  exact all ⟨q, hq⟩

/-- The first byte of a character of four bytes. The shortest form is asked for, and there is a last
character. -/
theorem utf8Lead_four {q : Nat} (hq : q < 5) :
    utf8Lead (0xF0 + q) =
      some (3, if q = 0 then 0x90 else 0x80, if q = 4 then 0x8F else 0xBF) := by
  have all : ∀ q : Fin 5, utf8Lead (0xF0 + q.val) =
      some (3, if q.val = 0 then 0x90 else 0x80, if q.val = 4 then 0x8F else 0xBF) := by decide
  exact all ⟨q, hq⟩

/-- The first bytes of characters of two, three and four bytes. There are no others. -/
theorem utf8Lead_cases {b n low high : Nat} (hlead : utf8Lead b = some (n, low, high)) :
    (∃ q, b = 0xC0 + q ∧ (2 ≤ q ∧ q < 32) ∧ n = 1 ∧ low = 0x80 ∧ high = 0xBF) ∨
    (∃ q, b = 0xE0 + q ∧ q < 16 ∧ n = 2 ∧ (low = 0x80 ∧ q ≠ 0 ∨ low = 0xA0) ∧
      (high = 0xBF ∧ q ≠ 13 ∨ high = 0x9F)) ∨
    ∃ q, b = 0xF0 + q ∧ q < 5 ∧ n = 3 ∧ (low = 0x80 ∧ q ≠ 0 ∨ low = 0x90) ∧
      (high = 0xBF ∧ q ≠ 4 ∨ high = 0x8F) := by
  have hparts {m l k : Nat} (heq : (some (m, l, k) : Option (Nat × Nat × Nat)) =
      some (n, low, high)) : n = m ∧ low = l ∧ high = k := by
    simpa only [Option.some.injEq, Prod.mk.injEq, eq_comm] using heq
  unfold utf8Lead at hlead
  split at hlead
  next =>
    obtain ⟨rfl, rfl, rfl⟩ := hparts hlead
    exact .inl ⟨b - 0xC0, by omega, by omega, rfl, rfl, rfl⟩
  next =>
    by_cases hthree : b ≤ 0xEF
    · refine .inr (.inl ⟨b - 0xE0, ?_⟩)
      repeat' split at hlead
      all_goals first | cases hlead; done | (obtain ⟨rfl, rfl, rfl⟩ := hparts hlead; omega)
    · refine .inr (.inr ⟨b - 0xF0, ?_⟩)
      repeat' split at hlead
      all_goals first | cases hlead; done | (obtain ⟨rfl, rfl, rfl⟩ := hparts hlead; omega)

/-! ## Further bytes -/

theorem utf8Tail_cons {n low high value : Nat} {b : UInt8} (hlow : low ≤ b.toNat)
    (hhigh : b.toNat ≤ high) (s : List UInt8) :
    utf8Tail (n + 1) low high value (b :: s) =
      ((utf8Tail n 0x80 0xBF (value * 64 + (b.toNat - 0x80)) s).1,
        (utf8Tail n 0x80 0xBF (value * 64 + (b.toNat - 0x80)) s).2 + 1) := by
  rw [utf8Tail, if_pos ⟨hlow, hhigh⟩]

/-- If as many further bytes are found as are looked for, the first lies between its bounds. -/
theorem of_utf8Tail_succ {n low high value : Nat} {s : List UInt8}
    (htaken : (utf8Tail (n + 1) low high value s).2 = n + 1) :
    ∃ b rest, s = b :: rest ∧ low ≤ b.toNat ∧ b.toNat ≤ high ∧
      (utf8Tail n 0x80 0xBF (value * 64 + (b.toNat - 0x80)) rest).2 = n ∧
      (utf8Tail (n + 1) low high value s).1 =
        (utf8Tail n 0x80 0xBF (value * 64 + (b.toNat - 0x80)) rest).1 := by
  cases s with
  | nil => cases htaken
  | cons b rest =>
      by_cases hb : low ≤ b.toNat ∧ b.toNat ≤ high
      · rw [utf8Tail_cons hb.1 hb.2] at htaken ⊢
        exact ⟨b, rest, rfl, hb.1, hb.2, Nat.succ.inj htaken, rfl⟩
      · rw [utf8Tail, if_neg hb] at htaken
        cases htaken

/-! ## The next character -/

theorem utf8Next_one {b : UInt8} (hb : b.toNat < 0x80) (s : List UInt8) :
    utf8Next b s = (some (Char.ofNat b.toNat), 0) :=
  if_pos (UInt8.lt_iff_toNat_lt.mpr hb)

theorem utf8Next_of_lead {b : UInt8} {n low high : Nat}
    (hlead : utf8Lead b.toNat = some (n, low, high)) (s : List UInt8) :
    let value := if n = 1 then b.toNat - 0xC0 else if n = 2 then b.toNat - 0xE0 else b.toNat - 0xF0
    let tail := utf8Tail n low high value s
    utf8Next b s = if tail.2 = n then (some (Char.ofNat tail.1), tail.2) else (none, tail.2) := by
  have hfirst : ¬b < 0x80 := by
    rw [UInt8.lt_iff_toNat_lt, show (0x80 : UInt8).toNat = 0x80 from rfl]
    rcases utf8Lead_cases hlead with ⟨q, hb, _⟩ | ⟨q, hb, _⟩ | ⟨q, hb, _⟩ <;> omega
  simp only [utf8Next, if_neg hfirst, hlead]

section Next

variable {b c d e : UInt8} {q r t u : Nat}

theorem utf8Next_two (hb : b.toNat = 0xC0 + q) (hq : 2 ≤ q ∧ q < 32) (hc : c.toNat = 0x80 + r)
    (hr : r < 64) (s : List UInt8) :
    utf8Next b (c :: s) = (some (Char.ofNat (q * 64 + r)), 1) := by
  have hlead := utf8Lead_two hq.1 hq.2
  rw [← hb] at hlead
  rw [utf8Next_of_lead hlead, if_pos rfl, utf8Tail_cons (by omega) (by omega)]
  simp [utf8Tail, hb, hc]

theorem utf8Next_three (hb : b.toNat = 0xE0 + q) (hq : q < 16) (hc : c.toNat = 0x80 + r)
    (hr : r < 64) (hd : d.toNat = 0x80 + t) (ht : t < 64) (hlow : q = 0 → 32 ≤ r)
    (hhigh : q = 13 → r < 32) (s : List UInt8) :
    utf8Next b (c :: d :: s) = (some (Char.ofNat (q * 4096 + r * 64 + t)), 2) := by
  have hlead := utf8Lead_three hq
  rw [← hb] at hlead
  have hfirst : (if q = 0 then 0xA0 else 0x80) ≤ c.toNat := by split <;> omega
  have hlast : c.toNat ≤ (if q = 13 then 0x9F else 0xBF) := by split <;> omega
  rw [utf8Next_of_lead hlead, utf8Tail_cons hfirst hlast, utf8Tail_cons (by omega) (by omega)]
  have hvalue : (q * 64 + r) * 64 + t = q * 4096 + r * 64 + t := by omega
  simp [utf8Tail, hb, hc, hd, hvalue]

theorem utf8Next_four (hb : b.toNat = 0xF0 + q) (hq : q < 5) (hc : c.toNat = 0x80 + r)
    (hr : r < 64) (hd : d.toNat = 0x80 + t) (ht : t < 64) (he : e.toNat = 0x80 + u) (hu : u < 64)
    (hlow : q = 0 → 16 ≤ r) (hhigh : q = 4 → r < 16) (s : List UInt8) :
    utf8Next b (c :: d :: e :: s) =
      (some (Char.ofNat (q * 262144 + r * 4096 + t * 64 + u)), 3) := by
  have hlead := utf8Lead_four hq
  rw [← hb] at hlead
  have hfirst : (if q = 0 then 0x90 else 0x80) ≤ c.toNat := by split <;> omega
  have hlast : c.toNat ≤ (if q = 4 then 0x8F else 0xBF) := by split <;> omega
  rw [utf8Next_of_lead hlead, utf8Tail_cons hfirst hlast, utf8Tail_cons (by omega) (by omega),
    utf8Tail_cons (by omega) (by omega)]
  have hvalue : ((q * 64 + r) * 64 + t) * 64 + u = q * 262144 + r * 4096 + t * 64 + u := by omega
  simp [utf8Tail, hb, hc, hd, he, hvalue]

end Next

/-- A character is the next one of its bytes, whatever follows them. -/
theorem utf8Next_utf8Char (ch : Char) (s : List UInt8) :
    ∃ b tail, utf8Char ch = b :: tail ∧ utf8Next b (tail ++ s) = (some ch, tail.length) := by
  have hvalid : ch.toNat < 0xD800 ∨ 0xDFFF < ch.toNat ∧ ch.toNat < 0x110000 := ch.valid
  have hchar := Char.ofNat_toNat ch
  unfold utf8Char
  generalize ch.toNat = n at *
  subst hchar
  have hfurther (m : Nat) : (0x80 + m % 64).toUInt8.toNat = 0x80 + m % 64 :=
    toNat_toUInt8 (by omega)
  have hbelow (m : Nat) : m % 64 < 64 := Nat.mod_lt m (by decide)
  simp only
  split
  next hone =>
    have hfirst : n.toUInt8.toNat = n := toNat_toUInt8 (by omega)
    refine ⟨_, _, rfl, ?_⟩
    rw [utf8Next_one (hfirst.symm ▸ hone : n.toUInt8.toNat < 0x80), hfirst]
    rfl
  next =>
    split
    next =>
      have hvalue : n / 64 * 64 + n % 64 = n := by omega
      refine ⟨_, _, rfl, ?_⟩
      have hnext := utf8Next_two (toNat_toUInt8 (by omega)) (q := n / 64) ⟨by omega, by omega⟩
        (hfurther n) (hbelow n) s
      rwa [hvalue] at hnext
    next =>
      split
      next =>
        have hvalue : n / 4096 * 4096 + n / 64 % 64 * 64 + n % 64 = n := by omega
        refine ⟨_, _, rfl, ?_⟩
        have hnext := utf8Next_three (toNat_toUInt8 (by omega)) (q := n / 4096) (by omega)
          (hfurther (n / 64)) (hbelow _) (hfurther n) (hbelow n) (by omega) (by omega) s
        rwa [hvalue] at hnext
      next =>
        have hvalue :
            n / 262144 * 262144 + n / 4096 % 64 * 4096 + n / 64 % 64 * 64 + n % 64 = n := by omega
        refine ⟨_, _, rfl, ?_⟩
        have hnext := utf8Next_four (toNat_toUInt8 (by omega)) (q := n / 262144) (by omega)
          (hfurther (n / 4096)) (hbelow _) (hfurther (n / 64)) (hbelow _) (hfurther n) (hbelow n)
          (by omega) (by omega) s
        rwa [hvalue] at hnext

/-- If a first byte of several makes a character, then with as many further bytes as it asks
for. -/
theorem of_utf8Next_of_lead {b : UInt8} {s : List UInt8} {ch : Char} {n low high taken : Nat}
    (hlead : utf8Lead b.toNat = some (n, low, high)) (hnext : utf8Next b s = (some ch, taken)) :
    let value := if n = 1 then b.toNat - 0xC0 else if n = 2 then b.toNat - 0xE0 else b.toNat - 0xF0
    taken = n ∧ (utf8Tail n low high value s).2 = n ∧
      ch = Char.ofNat (utf8Tail n low high value s).1 := by
  intro value
  have hread : (if (utf8Tail n low high value s).2 = n then
      (some (Char.ofNat (utf8Tail n low high value s).1), (utf8Tail n low high value s).2)
        else (none, (utf8Tail n low high value s).2)) = (some ch, taken) :=
    (utf8Next_of_lead hlead s).symm.trans hnext
  by_cases htaken : (utf8Tail n low high value s).2 = n
  · rw [if_pos htaken] at hread
    obtain ⟨hch, rfl⟩ := Prod.mk.inj hread
    exact ⟨htaken, htaken, (Option.some.inj hch).symm⟩
  · rw [if_neg htaken] at hread
    cases hread

/-- A character that is read is written in the bytes that it was read from. -/
theorem of_utf8Next {b : UInt8} {s : List UInt8} {ch : Char} {taken : Nat}
    (hnext : utf8Next b s = (some ch, taken)) :
    ∃ tail rest, s = tail ++ rest ∧ tail.length = taken ∧ utf8Char ch = b :: tail := by
  by_cases hone : b.toNat < 0x80
  · rw [utf8Next_one hone] at hnext
    obtain ⟨hch, rfl⟩ := Prod.mk.inj hnext
    obtain rfl := Option.some.inj hch
    refine ⟨[], s, rfl, rfl, ?_⟩
    rw [utf8Char_one hone, ← eq_toUInt8 rfl]
  · rcases hlead : utf8Lead b.toNat with - | ⟨n, low, high⟩
    · have hfirst : ¬b < 0x80 := fun h => hone (UInt8.lt_iff_toNat_lt.mp h)
      rw [utf8Next, if_neg hfirst, hlead] at hnext
      cases hnext
    · obtain ⟨rfl, htaken, rfl⟩ := of_utf8Next_of_lead hlead hnext
      -- The further bytes are taken one by one, and the number is put together from them.
      rcases utf8Lead_cases hlead with ⟨q, hb, hq, rfl, rfl, rfl⟩ |
        ⟨q, hb, hq, rfl, hlow, hhigh⟩ | ⟨q, hb, hq, rfl, hlow, hhigh⟩
      · obtain ⟨c, rest, rfl, hclow, hchigh, -, hvalue⟩ := of_utf8Tail_succ htaken
        refine ⟨[c], rest, rfl, rfl, ?_⟩
        have hwritten := utf8Char_two hq (r := c.toNat - 0x80) (by omega)
        rw [← eq_toUInt8 (by omega), ← eq_toUInt8 (b := c) (by omega)] at hwritten
        rw [hvalue, ← hwritten, hb]
        simp [utf8Tail]
      · obtain ⟨c, rest, rfl, hclow, hchigh, htaken, hvalue⟩ := of_utf8Tail_succ htaken
        obtain ⟨d, rest, rfl, hdlow, hdhigh, -, hvalue'⟩ := of_utf8Tail_succ htaken
        refine ⟨[c, d], rest, rfl, rfl, ?_⟩
        have hwritten := utf8Char_three hq (r := c.toNat - 0x80) (t := d.toNat - 0x80) (by omega)
          (by omega) (by omega) (by omega)
        rw [← eq_toUInt8 (by omega), ← eq_toUInt8 (b := c) (by omega),
          ← eq_toUInt8 (b := d) (by omega)] at hwritten
        have hnumber : (q * 64 + (c.toNat - 0x80)) * 64 + (d.toNat - 0x80) =
            q * 4096 + (c.toNat - 0x80) * 64 + (d.toNat - 0x80) := by omega
        rw [hvalue, hvalue', ← hwritten, ← hnumber, hb]
        simp [utf8Tail]
      · obtain ⟨c, rest, rfl, hclow, hchigh, htaken, hvalue⟩ := of_utf8Tail_succ htaken
        obtain ⟨d, rest, rfl, hdlow, hdhigh, htaken, hvalue'⟩ := of_utf8Tail_succ htaken
        obtain ⟨e, rest, rfl, helow, hehigh, -, hvalue''⟩ := of_utf8Tail_succ htaken
        refine ⟨[c, d, e], rest, rfl, rfl, ?_⟩
        have hwritten := utf8Char_four hq (r := c.toNat - 0x80) (t := d.toNat - 0x80)
          (u := e.toNat - 0x80) (by omega) (by omega) (by omega) (by omega) (by omega)
        rw [← eq_toUInt8 (by omega), ← eq_toUInt8 (b := c) (by omega),
          ← eq_toUInt8 (b := d) (by omega), ← eq_toUInt8 (b := e) (by omega)] at hwritten
        have hnumber : ((q * 64 + (c.toNat - 0x80)) * 64 + (d.toNat - 0x80)) * 64 +
            (e.toNat - 0x80) = q * 262144 + (c.toNat - 0x80) * 4096 + (d.toNat - 0x80) * 64 +
              (e.toNat - 0x80) := by omega
        rw [hvalue, hvalue', hvalue'', ← hwritten, ← hnumber, hb]
        simp [utf8Tail]

/-! ## Texts -/

theorem utf8_cons (c : Char) (s : List Char) : utf8 (c :: s) = utf8Char c ++ utf8 s :=
  List.flatMap_cons

theorem utf8_append (s t : List Char) : utf8 (s ++ t) = utf8 s ++ utf8 t :=
  List.flatMap_append

/-- Bytes that belong to the character before are left out. -/
theorem utf8Parts_append (tail s : List UInt8) :
    utf8Parts tail.length (tail ++ s) = utf8Parts 0 s := by
  induction tail with
  | nil => rfl
  | cons b tail ih => rw [List.length_cons, List.cons_append, utf8Parts, ih]

theorem utf8Parts_cons (b : UInt8) (s : List UInt8) :
    utf8Parts 0 (b :: s) = (utf8Next b s).1 :: utf8Parts (utf8Next b s).2 s := by
  rw [utf8Parts]

/-- Bytes are made up of characters just if they are the bytes of these characters. -/
theorem utf8Parts_eq_iff {bytes : List UInt8} {s : List Char} :
    utf8Parts 0 bytes = s.map some ↔ utf8 s = bytes := by
  induction s generalizing bytes with
  | nil =>
      cases bytes with
      | nil => simp [utf8Parts, utf8]
      | cons b bytes => simp [utf8Parts_cons, utf8]
  | cons c s ih =>
      constructor
      · intro hparts
        cases bytes with
        | nil => simp [utf8Parts] at hparts
        | cons b bytes =>
            rw [utf8Parts_cons, List.map_cons] at hparts
            obtain ⟨hfirst, hrest⟩ := List.cons.inj hparts
            have hnext : utf8Next b bytes = (some c, (utf8Next b bytes).2) := Prod.ext hfirst rfl
            obtain ⟨tail, rest, rfl, hlength, hwritten⟩ := of_utf8Next hnext
            rw [← hlength, utf8Parts_append] at hrest
            rw [utf8_cons, hwritten, ih.mp hrest, List.cons_append]
      · rintro rfl
        obtain ⟨b, tail, hwritten, hnext⟩ := utf8Next_utf8Char c (utf8 s)
        rw [utf8_cons, hwritten, List.cons_append, utf8Parts_cons, hnext, utf8Parts_append,
          ih.mpr rfl, List.map_cons]

theorem mapM_id_eq_some_iff {α : Type} {parts : List (Option α)} {s : List α} :
    parts.mapM id = some s ↔ parts = s.map some := by
  induction parts generalizing s with
  | nil =>
      rw [List.mapM_nil]
      cases s <;> simp
  | cons part parts ih =>
      rw [List.mapM_cons]
      cases part with
      | none => cases s <;> simp
      | some a => cases s <;> simp [Option.bind_eq_some_iff, ih, and_comm]

/-- Bytes are read as a text just if they are the bytes of the text. -/
theorem ofUtf8?_eq_some_iff {bytes : List UInt8} {s : List Char} :
    ofUtf8? bytes = some s ↔ utf8 s = bytes := by
  rw [ofUtf8?, mapM_id_eq_some_iff, utf8Parts_eq_iff]

theorem ofUtf8?_utf8 (s : List Char) : ofUtf8? (utf8 s) = some s :=
  ofUtf8?_eq_some_iff.mpr rfl

end Almanac.Text
