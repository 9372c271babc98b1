import Mathlib.Data.List.TakeWhile
import Almanac.Proofs.Calendar.ReadBack
import Almanac.Proofs.Calendar.Seams

/-!
# Bodies that are taken for calendars

A body is tested as it stands, from its first character that is not blank, and is read with its
lines taken together, from its first character on. The two agree if the body begins with the
very words that they look for, no name goes on behind them, and nothing but line ends stands in
front of them.
-/

namespace Almanac.Calendar

/-! ## Unfolding makes no characters -/

theorem infix_of_mem_splitAtMark {mark s part : List Char} (hmark : mark ∈ foldMarks)
    (hpart : part ∈ splitAtMark mark 0 s) : part <:+: s := by
  have hs := intercalate_splitAtMark (ne_nil_of_mem_foldMarks hmark) 0 s
  rw [List.drop_zero] at hs
  exact hs ▸ infix_intercalate hpart

theorem infix_of_mem_partsAt {marks : List (List Char)} (hmarks : ∀ m ∈ marks, m ∈ foldMarks)
    {s part : List Char} {parts : List (List Char)} (hparts : ∀ p ∈ parts, p <:+: s)
    (hpart : part ∈ partsAt marks parts) : part <:+: s := by
  induction marks generalizing parts with
  | nil => exact hparts part hpart
  | cons mark marks ih =>
      refine ih (fun m hm => hmarks m (List.mem_cons_of_mem _ hm)) (fun p hp => ?_) hpart
      obtain ⟨whole, hwhole, hp⟩ := List.mem_flatMap.mp hp
      exact (infix_of_mem_splitAtMark (hmarks mark List.mem_cons_self) hp).trans
        (hparts whole hwhole)

theorem mem_of_mem_unfold {s : List Char} {c : Char} (hc : c ∈ unfold s) : c ∈ s := by
  rw [unfold_eq] at hc
  obtain ⟨part, hpart, hmem⟩ := List.mem_flatten.mp hc
  have hinfix := infix_of_mem_partsAt (fun _ hm => hm) (s := s)
    (fun p hp => List.mem_singleton.mp hp ▸ List.infix_refl s) hpart
  exact hinfix.subset hmem

/-! ## Blanks in front of a component -/

theorem toUpper_of_isBlank {c : Char} (hc : Text.isBlank c = true) : c.toUpper ≠ 'B' := by
  intro hupper
  have hblank := Text.isBlank_toUpper c
  rw [hupper, hc] at hblank
  exact absurd hblank (by decide)

/-- A component does not begin with a blank. -/
theorem opening?_of_isBlank {s : List Char} {c : Char} (hc : Text.isBlank c = true) :
    opening? (c :: s) = none := by
  have hword : afterWord? "BEGIN:".toList (c :: s) = none := if_neg (toUpper_of_isBlank hc)
  rw [opening?, hword, Option.map_none]

/-- Line ends end where something else begins. -/
theorem skipLineEnds_append (s : List Char) {t : List Char}
    (ht : ∀ c ∈ t.head?, c ≠ '\r' ∧ c ≠ '\n') : skipLineEnds (s ++ t) = skipLineEnds s ++ t := by
  fun_induction skipLineEnds s with
  | case1 s ih => simpa [skipLineEnds] using ih
  | case2 s ih => simpa [skipLineEnds] using ih
  | case3 s hfeed hreturn =>
      cases s with
      | nil => exact skipLineEnds_eq_self ht
      | cons c s =>
          rw [List.cons_append, skipLineEnds]
          · rintro _ heq
            exact hfeed _ (by rw [(List.cons.inj heq).1])
          · rintro rest heq
            obtain ⟨rfl, hrest⟩ := List.cons.inj heq
            cases s with
            | nil => exact (ht '\n' (by rw [← List.nil_append t, hrest]; rfl)).2 rfl
            | cons d s => exact hreturn s (by rw [(List.cons.inj hrest).1])

theorem skipLineEnds_suffix (s : List Char) : skipLineEnds s <:+ s := by
  fun_induction skipLineEnds s with
  | case1 s ih => exact ih.trans (List.suffix_cons _ s)
  | case2 s ih => exact (ih.trans (List.suffix_cons _ s)).trans (List.suffix_cons _ _)
  | case3 s => exact List.suffix_refl s

/-- In front of a component only line ends may stand. -/
theorem component?_append {s t : List Char} (hs : ∀ c ∈ s, Text.isBlank c = true)
    (ht : ∀ c ∈ t.head?, c ≠ '\r' ∧ c ≠ '\n') :
    component? (s ++ t) = if skipLineEnds s = [] then component? t else none := by
  have hskip := skipLineEnds_append s ht
  split
  next hends =>
    rw [hends, List.nil_append] at hskip
    rw [component?, component?, hskip, skipLineEnds_eq_self ht]
  next hends =>
    obtain ⟨c, rest, hrest⟩ := List.exists_cons_of_ne_nil hends
    have hc : c ∈ s := (skipLineEnds_suffix s).subset (hrest ▸ List.mem_cons_self)
    rw [component?, hskip, hrest, List.cons_append, opening?_of_isBlank (hs c hc)]
    rfl

/-! ## The kind of what is read -/

theorem kind_of_readOpen {here c : Component} {outer : List Component} {text rest : List Char}
    (hread : readOpen here outer text = some (c, rest)) :
    c.kind = (outer.getLast?.getD here).kind := by
  fun_induction readOpen here outer text with
  | case1 here text rest' _ _ =>
      obtain ⟨rfl, _⟩ := Prod.mk.inj (Option.some.inj hread)
      rfl
  | case2 here text rest' _ _ parent outer ih =>
      rw [ih hread]
      cases outer <;> rfl
  | case3 here outer text _ kind rest' hopening _ ih =>
      rw [ih hread, List.getLast?_cons]
      rfl
  | case4 here outer text _ _ line rest' hline _ ih =>
      rw [ih hread]
      cases outer with
      | nil => exact Component.add_kind _ _ _
      | cons => rfl
  | case5 => cases hread

/-! ## Bodies -/

/-- The words with which a calendar begins. -/
def calendarWords : List Char := "BEGIN:VCALENDAR".toList

/-- The blanks at the start of a text. -/
def blanksOf (s : List Char) : List Char := s.takeWhile Text.isBlank

theorem meets_of_head {s t : List Char} {d : Char} (ht : t.head? = some d)
    (hd : d ≠ '\n' ∧ d ≠ ' ' ∧ d ≠ '\t') : Meets s t := by
  intro c _ e he
  obtain rfl := Option.some.inj (ht.symm.trans he)
  exact ⟨fun _ => hd.1, fun _ => hd.2⟩

theorem unfold_calendarWords (rest : List Char) :
    unfold (calendarWords ++ rest) = calendarWords ++ unfold rest := by
  have hwords : unfold calendarWords = calendarWords :=
    unfold_of_folded (Folded.refl calendarWords) (by decide)
  have hmeets : Meets calendarWords rest := by
    intro c hc d _
    obtain rfl : 'R' = c := Option.some.inj hc
    exact ⟨fun h => absurd h (by decide), fun h => absurd h (by decide)⟩
  rw [unfold_append hmeets, hwords]

/-- The component that a text consists of, without the blanks in front of it. -/
def calendarOf? (s : List Char) : Option Component := component? (unfold (Text.trimStart s))

theorem blanksOf_append_trimStart (s : List Char) : blanksOf s ++ Text.trimStart s = s :=
  List.takeWhile_append_dropWhile

theorem isBlank_of_mem_blanksOf {s : List Char} {c : Char} (hc : c ∈ blanksOf s) :
    Text.isBlank c = true :=
  List.mem_takeWhile_imp hc

/-- A text that begins as a calendar does is read if nothing but line ends stands in front of the
words. -/
theorem component?_of_words {s : List Char} (hwords : calendarWords <+: Text.trimStart s) :
    component? (unfold s) =
      if skipLineEnds (unfold (blanksOf s)) = [] then calendarOf? s else none := by
  obtain ⟨rest, hrest⟩ := hwords
  have hmeets : Meets (blanksOf s) (Text.trimStart s) :=
    meets_of_head (d := 'B') (by rw [← hrest]; rfl) (by decide)
  have hparts : unfold s = unfold (blanksOf s) ++ unfold (Text.trimStart s) := by
    rw [← unfold_append hmeets, blanksOf_append_trimStart]
  have hhead : ∀ c ∈ (unfold (Text.trimStart s)).head?, c ≠ '\r' ∧ c ≠ '\n' := by
    rw [← hrest, unfold_calendarWords]
    intro c hc
    obtain rfl : 'B' = c := Option.some.inj hc
    decide
  rw [hparts, component?_append (fun c hc => isBlank_of_mem_blanksOf (mem_of_mem_unfold hc)) hhead]
  rfl

theorem opening?_calendarWords (rest : List Char) :
    opening? (calendarWords ++ rest) =
      some (calendarKind.toList ++ nameOf rest, afterName (calendarKind.toList ++ rest)) := by
  have hword : afterWord? "BEGIN:".toList (calendarWords ++ rest) =
      some (calendarKind.toList ++ rest) := rfl
  have hname : nameOf (calendarKind.toList ++ rest) = calendarKind.toList ++ nameOf rest :=
    List.takeWhile_append_of_pos (List.all_eq_true.mp (by decide))
  rw [opening?, hword, Option.map_some, hname]

/-- The kind of what begins as a calendar does goes on as the name does. -/
theorem kind_of_words {s rest : List Char} {c : Component}
    (hwords : Text.trimStart s = calendarWords ++ rest) (hc : calendarOf? s = some c) :
    c.kind = calendarKind ++ String.ofList (nameOf (unfold rest)) := by
  have hskip : skipLineEnds (calendarWords ++ unfold rest) = calendarWords ++ unfold rest :=
    skipLineEnds_eq_self fun d hd => by
      obtain rfl := Option.some.inj hd
      decide
  rw [calendarOf?, hwords, unfold_calendarWords, component?, hskip, opening?_calendarWords] at hc
  simp only [Option.bind_eq_bind, Option.bind_some, Option.bind_eq_some_iff] at hc
  obtain ⟨⟨d, rest'⟩, hread, hwhole⟩ := hc
  split at hwhole
  next =>
    obtain rfl := Option.some.inj hwhole
    rw [kind_of_readOpen hread]
    simp [Component.ofKind]
  next => cases hwhole

/-- What a body gives that begins with the words or not, that is a component behind its blanks or
not, and that has these blanks. -/
def verdict (words : Bool) (calendar : Option Component) (blanks : List Char) :
    Except ReadError (List Component) :=
  if words then
    match calendar with
    | some c =>
      if skipLineEnds (unfold blanks) = [] then
        .ok (if c.kind = calendarKind then c.children.filter (·.kind = eventKind) else [])
      else .error .malformed
    | none => .error .malformed
  else .error .notCalendar

theorem events?_eq_verdict (body : String) :
    events? body = verdict (calendarWords.isPrefixOf (Text.trimStart body.toList))
      (calendarOf? body.toList) (blanksOf body.toList) := by
  unfold verdict
  by_cases hwords : calendarWords <+: Text.trimStart body.toList
  · obtain ⟨rest, hrest⟩ := hwords
    have hdrop : Text.dropPrefix? "BEGIN:VCALENDAR".toList (Text.trimStart body.toList) =
        some rest := Text.dropPrefix?_eq_some_iff.mpr hrest.symm
    rw [if_pos (List.isPrefixOf_iff_prefix.mpr ⟨rest, hrest⟩), events?, hdrop,
      component?_of_words ⟨rest, hrest⟩]
    by_cases hends : skipLineEnds (unfold (blanksOf body.toList)) = []
    · simp only [if_pos hends]
      rfl
    · simp only [if_neg hends]
      cases calendarOf? body.toList <;> rfl
  · have hdrop : Text.dropPrefix? "BEGIN:VCALENDAR".toList (Text.trimStart body.toList) = none := by
      cases hdrop : Text.dropPrefix? "BEGIN:VCALENDAR".toList (Text.trimStart body.toList) with
      | none => rfl
      | some rest => exact absurd ⟨rest, (Text.dropPrefix?_eq_some_iff.mp hdrop).symm⟩ hwords
    rw [if_neg (mt List.isPrefixOf_iff_prefix.mp hwords), events?, hdrop]

theorem verdict_ok_iff {words : Bool} {calendar : Option Component} {blanks : List Char} :
    (∃ events, verdict words calendar blanks = .ok events) ↔
      ∃ c, calendar = some c ∧ words = true ∧ skipLineEnds (unfold blanks) = [] := by
  unfold verdict
  cases words with
  | false => simp
  | true =>
      cases calendar with
      | none => simp
      | some c => by_cases hends : skipLineEnds (unfold blanks) = [] <;> simp [hends]

/-- Of the blanks it counts only whether they are line ends, and this only where a component has
been read behind the words. -/
theorem verdict_eq_iff {words : Bool} {calendar : Option Component} {blanks other : List Char} :
    verdict words calendar blanks = verdict words calendar other ↔
      (words = true → calendar.isSome = true →
        (skipLineEnds (unfold blanks) = [] ↔ skipLineEnds (unfold other) = [])) := by
  unfold verdict
  cases words with
  | false => simp
  | true =>
      cases calendar with
      | none => simp
      | some c =>
          by_cases hblanks : skipLineEnds (unfold blanks) = [] <;>
            by_cases hother : skipLineEnds (unfold other) = [] <;> simp [hblanks, hother]

theorem blanksOf_append {blanks : List Char} (hblanks : ∀ c ∈ blanks, Text.isBlank c = true)
    (s : List Char) : blanksOf (blanks ++ s) = blanks ++ blanksOf s :=
  List.takeWhile_append_of_pos hblanks

theorem calendarOf?_append {blanks : List Char} (hblanks : ∀ c ∈ blanks, Text.isBlank c = true)
    (s : List Char) : calendarOf? (blanks ++ s) = calendarOf? s := by
  rw [calendarOf?, calendarOf?, Text.trimStart_append_of_blank blanks s hblanks]

/-- What is taken for a calendar. A body gives events if, behind the blanks at its start, it begins
with the very words, if it is one component then, and if the blanks are nothing but line ends once
lines are taken together; these are the events directly inside, in order, unless the name goes on
behind the words, for then there are none. So bodies that give events are those that are calendars
behind their blanks just where the words and the line ends tell of a component whether it is a
calendar. And blanks that are put in front of a body change nothing just if they leave the blanks
line ends or leave them none, or if the body is not read for other reasons. -/
theorem recognition_is_exact (body : String) :
    let words := calendarWords.isPrefixOf (Text.trimStart body.toList)
    let front := blanksOf body.toList
    (events? body =
      if words then
        match calendarOf? body.toList with
        | some c =>
          if skipLineEnds (unfold front) = [] then
            .ok (if c.kind = calendarKind then c.children.filter (·.kind = eventKind) else [])
          else .error .malformed
        | none => .error .malformed
      else .error .notCalendar) ∧
    (∀ rest c, Text.trimStart body.toList = calendarWords ++ rest →
      calendarOf? body.toList = some c →
        c.kind = calendarKind ++ String.ofList (nameOf (unfold rest))) ∧
    (((∃ events, events? body = .ok events) ↔
        ∃ c, calendarOf? body.toList = some c ∧ c.kind = calendarKind) ↔
      ∀ c, calendarOf? body.toList = some c →
        (c.kind = calendarKind ↔ words = true ∧ skipLineEnds (unfold front) = [])) ∧
    ∀ blanks : String, (∀ c ∈ blanks.toList, Text.isBlank c = true) →
      (events? (blanks ++ body) = events? body ↔
        (words = true → (calendarOf? body.toList).isSome = true →
          (skipLineEnds (unfold (blanks.toList ++ front)) = [] ↔
            skipLineEnds (unfold front) = []))) := by
  intro words front
  refine ⟨events?_eq_verdict body, fun rest c hwords hc => kind_of_words hwords hc, ?_,
    fun blanks hblanks => ?_⟩
  · rw [events?_eq_verdict, verdict_ok_iff]
    cases calendarOf? body.toList with
    | none => simp
    | some c =>
        simp only [Option.some.injEq, exists_eq_left', forall_eq']
        exact iff_comm
  · have hbehind := Text.trimStart_append_of_blank _ body.toList hblanks
    rw [events?_eq_verdict, events?_eq_verdict, String.toList_append, hbehind,
      calendarOf?_append hblanks, blanksOf_append hblanks]
    exact verdict_eq_iff

/-- A blank in front of a calendar makes it no calendar, a fold in its first line too, and a
component with a longer name is taken for one. -/
theorem blank_fold_and_longer_name :
    let plain := "BEGIN:VCALENDAR\r\nEND:VCALENDAR\r\n"
    let longer := "BEGIN:VCALENDARX\r\nEND:VCALENDARX\r\n"
    let folded := "BEGIN:VCAL\r\n ENDAR\r\nEND:VCALENDAR\r\n"
    events? plain = .ok [] ∧ events? (" " ++ plain) = .error .malformed ∧
      events? longer = .ok [] ∧
      (calendarOf? longer.toList).map Component.kind = some "VCALENDARX" ∧
      events? folded = .error .notCalendar ∧
      (calendarOf? folded.toList).map Component.kind = some calendarKind := by
  decide +kernel

end Almanac.Calendar
