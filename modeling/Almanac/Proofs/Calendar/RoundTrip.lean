import Almanac.Proofs.Calendar.ReadBack

/-!
# Calendars that are read back

A calendar that is written from events that have been read is read as a calendar with
these events, each completed by the time stamp and the identifier that writing gives
to components without. Only what is no property line as it stands is left out: names
that begin or end components, and values that their marks or their line cannot hold.
-/

namespace Almanac.Calendar

open Component

/-! ## Completed components -/

/-- The properties with this one set if there is none of its name. -/
def withDefault (d : Dictionary Property) (name value : String) : Dictionary Property :=
  if d.contains name then d else d.set name ⟨∅, value⟩

mutual

/-- A component as it is read after it has been written, and the number of the next identifier. -/
def complete (issue : Issue) (next : Nat) : Component → Component × Nat
  | ⟨kind, single, repeated, children⟩ =>
    let inner := completeAll issue (if single.contains "UID" then next else next + 1) children
    (⟨kind, withDefault (withDefault single "DTSTAMP" issue.stamp) "UID" (issue.identifier next),
      repeated, inner.1⟩, inner.2)

/-- Components in order as they are read after they have been written. -/
def completeAll (issue : Issue) (next : Nat) : List Component → List Component × Nat
  | [] => ([], next)
  | c :: rest =>
    let first := complete issue next c
    let others := completeAll issue first.2 rest
    (first.1 :: others.1, others.2)

end

/-- The second component has all that the first one has, and besides at most a time stamp and an
identifier where the first one has none; so have the components inside. -/
inductive Completes : Component → Component → Prop
  | intro {c d : Component} (kind : d.kind = c.kind) (repeated : d.repeated = c.repeated)
      (kept : ∀ name p, c.single.get? name = some p → d.single.get? name = some p)
      (added : ∀ name, c.single.get? name = none → name ≠ "DTSTAMP" → name ≠ "UID" →
        d.single.get? name = none)
      (children : List.Forall₂ Completes c.children d.children) : Completes c d

theorem get?_withDefault (d : Dictionary Property) (name value other : String) :
    (withDefault d name value).get? other =
      (d.get? other).or (if name = other then some ⟨∅, value⟩ else none) := by
  unfold withDefault Dictionary.contains
  split
  next hsome =>
    split
    next heq =>
      subst heq
      obtain ⟨p, hp⟩ := Option.isSome_iff_exists.mp hsome
      simp [hp]
    next => rw [Option.or_none]
  next hnone =>
    rw [Dictionary.get?_set]
    split
    next heq =>
      subst heq
      have hget : d.get? name = none := by simpa using hnone
      rw [hget, Option.none_or]
    next => rw [Option.or_none]

mutual

theorem completes_complete (issue : Issue) (next : Nat) (c : Component) :
    Completes c (complete issue next c).1 := by
  obtain ⟨kind, single, repeated, children⟩ := c
  rw [complete]
  refine .intro rfl rfl (fun name p hp => ?_) (fun name hnone hstamp huid => ?_)
    (completes_completeAll issue _ children)
  · simp only [get?_withDefault]
    rw [show single.get? name = some p from hp]
    rfl
  · simp only [get?_withDefault]
    rw [show single.get? name = none from hnone, if_neg (Ne.symm hstamp), if_neg (Ne.symm huid)]
    rfl

theorem completes_completeAll (issue : Issue) (next : Nat) (cs : List Component) :
    List.Forall₂ Completes cs (completeAll issue next cs).1 := by
  cases cs with
  | nil => exact .nil
  | cons c cs =>
      rw [completeAll]
      exact .cons (completes_complete issue next c) (completes_completeAll issue _ cs)

end

/-! ## The lines of a component -/

/-- The line of a property that is given to a component without it. -/
def defaultLine (d : Dictionary Property) (name value : String) : List (String × Property) :=
  if d.contains name then [] else [(name, ⟨∅, value⟩)]

/-- The lines of the single properties. -/
def singleLines (issue : Issue) (next : Nat) (single : Dictionary Property) :
    List (String × Property) :=
  defaultLine single "DTSTAMP" issue.stamp ++ single.entries ++
    defaultLine single "UID" (issue.identifier next)

/-- The lines of the properties that may be given several times. -/
def repeatedLines (repeated : Dictionary (List Property)) : List (String × Property) :=
  repeated.entries.flatMap fun e => e.2.map fun p => (e.1, p)

/-- The property lines of a component in the order in which they are written. -/
def propertyLines (issue : Issue) (next : Nat) (c : Component) : List (String × Property) :=
  singleLines issue next c.single ++ repeatedLines c.repeated

theorem flatMap_defaultLine (d : Dictionary Property) (name value : String) :
    (defaultLine d name value).flatMap (fun e => writeProperty e.1 e.2) =
      if d.contains name then [] else writePlain name value := by
  unfold defaultLine
  split
  next => rfl
  next => simp [writePlain]

theorem writeComponent_eq (issue : Issue) (next : Nat) (c : Component) :
    writeComponent issue next c =
      let inner := writeComponents issue (if c.single.contains "UID" then next else next + 1)
        c.children
      (plainLine ("BEGIN:".toList ++ c.kind.toList) ++
        ((propertyLines issue next c).flatMap (fun e => writeProperty e.1 e.2) ++ inner.1) ++
          plainLine ("END:".toList ++ c.kind.toList), inner.2) := by
  obtain ⟨kind, single, repeated, children⟩ := c
  rw [writeComponent]
  simp only [propertyLines, singleLines, repeatedLines, List.flatMap_append, flatMap_defaultLine,
    List.flatMap_assoc, List.flatMap_map, List.append_assoc]

theorem addLines_single (lines : List (String × Property))
    (hlines : ∀ e ∈ lines, e.1 ∉ repeatableNames) (c : Component) :
    c.addLines lines = { c with single := lines.foldl (fun d e => d.set e.1 e.2) c.single } := by
  induction lines generalizing c with
  | nil => cases c; rfl
  | cons e lines ih =>
      have hfirst : c.add e.1 e.2 = c.set e.1 e.2 := if_neg (hlines e List.mem_cons_self)
      rw [addLines, List.foldl_cons, hfirst]
      exact ih (fun other hother => hlines other (List.mem_cons_of_mem _ hother)) _

theorem addLines_repeated (lines : List (String × Property))
    (hlines : ∀ e ∈ lines, e.1 ∈ repeatableNames) (c : Component) :
    c.addLines lines = { c with repeated := lines.foldl Dictionary.gather c.repeated } := by
  induction lines generalizing c with
  | nil => cases c; rfl
  | cons e lines ih =>
      have hfirst : c.add e.1 e.2 = c.addRepeated e.1 e.2 := if_pos (hlines e List.mem_cons_self)
      rw [addLines, List.foldl_cons, hfirst]
      exact ih (fun other hother => hlines other (List.mem_cons_of_mem _ hother)) _

theorem mem_defaultLine {d : Dictionary Property} {name value : String} {e : String × Property}
    (he : e ∈ defaultLine d name value) : e = (name, ⟨∅, value⟩) := by
  unfold defaultLine at he
  split at he
  next => cases he
  next => exact List.mem_singleton.mp he

theorem get?_foldl_defaultLine (single d : Dictionary Property) (name value other : String) :
    ((defaultLine single name value).foldl (fun d e => d.set e.1 e.2) d).get? other =
      if single.contains name = false ∧ name = other then some ⟨∅, value⟩ else d.get? other := by
  unfold defaultLine
  split
  next hsome => simp [hsome]
  next hnone => simp [hnone]

/-- The lines of single properties set them all, with what was missing. -/
theorem foldl_singleLines (issue : Issue) (next : Nat) (single : Dictionary Property) :
    (singleLines issue next single).foldl (fun d e => d.set e.1 e.2) ∅ =
      withDefault (withDefault single "DTSTAMP" issue.stamp) "UID" (issue.identifier next) := by
  refine Dictionary.ext_get? fun name => ?_
  rw [singleLines, List.foldl_append, List.foldl_append, get?_foldl_defaultLine,
    Dictionary.get?_foldl_entries, get?_foldl_defaultLine, get?_withDefault, get?_withDefault,
    Dictionary.get?_empty]
  unfold Dictionary.contains
  by_cases hstamp : "DTSTAMP" = name
  · subst hstamp
    cases hget : single.get? "DTSTAMP" <;> simp
  · by_cases huid : "UID" = name
    · subst huid
      cases hget : single.get? "UID" <;> simp
    · simp [hstamp, huid]

/-- The lines of a component make up its properties, completed. -/
theorem addLines_propertyLines (issue : Issue) (next : Nat) (c : Component) (hc : c.IsRead) :
    (ofKind c.kind).addLines (propertyLines issue next c) =
      ⟨c.kind, withDefault (withDefault c.single "DTSTAMP" issue.stamp) "UID"
        (issue.identifier next), c.repeated, []⟩ := by
  have hsingle : ∀ e ∈ singleLines issue next c.single, e.1 ∉ repeatableNames := by
    intro e he
    rcases List.mem_append.mp he with he | he
    · rcases List.mem_append.mp he with he | he
      · exact mem_defaultLine he ▸ (by decide : "DTSTAMP" ∉ repeatableNames)
      · exact (hc.single e.1 e.2 (Dictionary.get?_eq_some_iff.mpr he)).1
    · exact mem_defaultLine he ▸ (by decide : "UID" ∉ repeatableNames)
  have hrepeated : ∀ e ∈ repeatedLines c.repeated, e.1 ∈ repeatableNames := by
    intro e he
    obtain ⟨entry, hentry, hmem⟩ := List.mem_flatMap.mp he
    obtain ⟨p, _, rfl⟩ := List.mem_map.mp hmem
    exact (hc.repeated entry.1 entry.2 (Dictionary.get?_eq_some_iff.mpr hentry)).1
  -- A name without any property would have no line, and would be lost.
  have hne : ∀ e ∈ c.repeated.entries, e.2 ≠ [] := fun e he =>
    (hc.repeated e.1 e.2 (Dictionary.get?_eq_some_iff.mpr he)).2.1
  have hsplit : (ofKind c.kind).addLines (propertyLines issue next c) =
      ((ofKind c.kind).addLines (singleLines issue next c.single)).addLines
        (repeatedLines c.repeated) := List.foldl_append
  have hgather : (repeatedLines c.repeated).foldl Dictionary.gather ∅ = c.repeated :=
    Dictionary.foldl_gather_entries c.repeated hne
  rw [hsplit, addLines_single _ hsingle, addLines_repeated _ hrepeated]
  simp only [ofKind, foldl_singleLines, hgather]

/-- A property without parameters can be written if its value is text or has no line feed. -/
theorem plain_fits (name value : String) (hname : name.toList.all isNameChar = true)
    (hframe : ¬IsFrame name)
    (hvalue : ValueType.isEscaped name none = true ∨ '\n' ∉ value.toList) :
    IsProperty name ⟨∅, value⟩ ∧ WritableProperty name ⟨∅, value⟩ := by
  refine ⟨⟨List.all_eq_true.mp hname, ?_⟩, hframe, ?_, fun hraw => ?_⟩
  · intro q hq
    cases hq
  · intro q hq
    cases hq
  · rcases hvalue with hescaped | hfeed
    · rw [Dictionary.get?_empty, hescaped] at hraw
      cases hraw
    · exact ⟨isUnbroken_of_not_mem hfeed, isOneLine_of_not_mem hfeed⟩

/-- What holds of the lines that may be given to a component and of its own ones holds of all. -/
theorem forall_mem_propertyLines {P : String → Property → Prop} {issue : Issue} {next : Nat}
    {c : Component} (hstamp : P "DTSTAMP" ⟨∅, issue.stamp⟩)
    (huid : P "UID" ⟨∅, issue.identifier next⟩)
    (hsingle : ∀ name p, c.single.get? name = some p → P name p)
    (hrepeated : ∀ name ps, c.repeated.get? name = some ps → ∀ p ∈ ps, P name p) :
    ∀ e ∈ propertyLines issue next c, P e.1 e.2 := by
  intro e he
  rcases List.mem_append.mp he with he | he
  · rcases List.mem_append.mp he with he | he
    · rcases List.mem_append.mp he with he | he
      · exact mem_defaultLine he ▸ hstamp
      · exact hsingle e.1 e.2 (Dictionary.get?_eq_some_iff.mpr he)
    · exact mem_defaultLine he ▸ huid
  · obtain ⟨entry, hentry, hmem⟩ := List.mem_flatMap.mp he
    obtain ⟨p, hp, rfl⟩ := List.mem_map.mp hmem
    exact hrepeated entry.1 entry.2 (Dictionary.get?_eq_some_iff.mpr hentry) p hp

theorem propertyLines_fit (issue : Issue) (hstamp : '\n' ∉ issue.stamp.toList) (next : Nat)
    (c : Component) (hc : c.IsRead) (hw : c.Writable) :
    ∀ e ∈ propertyLines issue next c, IsProperty e.1 e.2 ∧ WritableProperty e.1 e.2 := by
  have hstampLine := plain_fits "DTSTAMP" issue.stamp (by decide) (by decide) (.inr hstamp)
  have huidLine := plain_fits "UID" (issue.identifier next) (by decide) (by decide)
    (.inl (by decide))
  exact forall_mem_propertyLines (P := fun name p => IsProperty name p ∧ WritableProperty name p)
    hstampLine huidLine
    (fun name p hp => ⟨(hc.single name p hp).2, hw.single name p hp⟩)
    (fun name ps hps p hp => ⟨(hc.repeated name ps hps).2.2 p hp, hw.repeated name ps hps p hp⟩)

/-! ## Reading what has been written -/

/-- The component with further components inside, after the others. -/
def Component.addChildren (c : Component) (children : List Component) : Component :=
  { c with children := c.children ++ children }

theorem addChildren_nil (c : Component) : c.addChildren [] = c := by
  cases c
  simp [Component.addChildren]

theorem addChildren_cons (c child : Component) (children : List Component) :
    (c.addChild child).addChildren children = c.addChildren (child :: children) := by
  simp [Component.addChildren, Component.addChild]

mutual

/-- The text of a component is read as the completed component. -/
theorem reads_writeComponent (issue : Issue) (hstamp : '\n' ∉ issue.stamp.toList) (next : Nat)
    (c : Component) (hc : c.Everywhere IsRead) (hw : c.Everywhere Writable) :
    Reads (writeComponent issue next c).1
        (fun here => here.addChild (complete issue next c).1) ∧
      (writeComponent issue next c).2 = (complete issue next c).2 := by
  obtain ⟨kind, single, repeated, children⟩ := c
  obtain ⟨_, hhere, hinside⟩ := hc
  obtain ⟨_, hwhere, hwinside⟩ := hw
  have hlines := reads_properties _ (propertyLines_fit issue hstamp next _ hhere hwhere)
  obtain ⟨hinner, hnumber⟩ := reads_writeComponents issue hstamp
    (if single.contains "UID" then next else next + 1) children
    fun child hchild => ⟨hinside child hchild, hwinside child hchild⟩
  have hwhole := addLines_propertyLines issue next _ hhere
  rw [writeComponent_eq, complete]
  refine ⟨?_, hnumber⟩
  have hread := reads_component hhere.kind (hlines.append hinner) (addLines_frame _ _).1
  simp only [Function.comp_apply, hwhole] at hread
  exact hread

/-- The texts of components are read as the completed components. -/
theorem reads_writeComponents (issue : Issue) (hstamp : '\n' ∉ issue.stamp.toList) (next : Nat)
    (cs : List Component)
    (hcs : ∀ c ∈ cs, c.Everywhere IsRead ∧ c.Everywhere Writable) :
    Reads (writeComponents issue next cs).1
        (fun here => here.addChildren (completeAll issue next cs).1) ∧
      (writeComponents issue next cs).2 = (completeAll issue next cs).2 := by
  cases cs with
  | nil =>
      rw [writeComponents, completeAll]
      refine ⟨?_, rfl⟩
      simp only [addChildren_nil]
      exact Reads.nil
  | cons c cs =>
      obtain ⟨hc, hw⟩ := hcs c List.mem_cons_self
      obtain ⟨hfirst, hnumber⟩ := reads_writeComponent issue hstamp next c hc hw
      obtain ⟨hothers, hlast⟩ := reads_writeComponents issue hstamp (complete issue next c).2 cs
        fun other hother => hcs other (List.mem_cons_of_mem _ hother)
      rw [writeComponents, completeAll]
      simp only [hnumber, ← addChildren_cons]
      exact ⟨hfirst.append hothers, hlast⟩

end

/-- The lines above the events. -/
def headingLines (name description : String) : List (String × Property) :=
  [("VERSION", ⟨∅, "2.0"⟩), ("PRODID", ⟨∅, "ICALENDAR-RS"⟩), ("CALSCALE", ⟨∅, "GREGORIAN"⟩),
    ("NAME", ⟨∅, name⟩), ("X-WR-CALNAME", ⟨∅, name⟩), ("DESCRIPTION", ⟨∅, description⟩),
    ("X-WR-CALDESC", ⟨∅, description⟩)]

theorem writeHeading_eq (name description : String) :
    writeHeading name description =
      (headingLines name description).flatMap fun e => writeProperty e.1 e.2 := by
  simp [writeHeading, headingLines, writePlain]

/-- The lines above the events have no parameters, and only one of them is not escaped. -/
theorem of_mem_headingLines {name description : String} {e : String × Property}
    (he : e ∈ headingLines name description) :
    ∃ value, e.2 = ⟨∅, value⟩ ∧ e.1.toList.all isNameChar = true ∧ ¬IsFrame e.1 ∧
      (ValueType.isEscaped e.1 none = true ∨ value = name) := by
  have hline (field value : String) (hfield : field.toList.all isNameChar = true)
      (hframe : ¬IsFrame field)
      (hvalue : ValueType.isEscaped field none = true ∨ value = name) :
      ∃ v, (⟨∅, value⟩ : Property) = ⟨∅, v⟩ ∧ field.toList.all isNameChar = true ∧
        ¬IsFrame field ∧ (ValueType.isEscaped field none = true ∨ v = name) :=
    ⟨value, rfl, hfield, hframe, hvalue⟩
  simp only [headingLines, List.mem_cons, List.not_mem_nil, or_false] at he
  rcases he with rfl | rfl | rfl | rfl | rfl | rfl | rfl
  · exact hline "VERSION" "2.0" (by decide) (by decide) (.inl (by decide))
  · exact hline "PRODID" "ICALENDAR-RS" (by decide) (by decide) (.inl (by decide))
  · exact hline "CALSCALE" "GREGORIAN" (by decide) (by decide) (.inl (by decide))
  · exact hline "NAME" name (by decide) (by decide) (.inr rfl)
  · exact hline "X-WR-CALNAME" name (by decide) (by decide) (.inl (by decide +kernel))
  · exact hline "DESCRIPTION" description (by decide) (by decide) (.inl (by decide))
  · exact hline "X-WR-CALDESC" description (by decide) (by decide) (.inl (by decide +kernel))

theorem headingLines_fit (name description : String) (hname : '\n' ∉ name.toList) :
    ∀ e ∈ headingLines name description, IsProperty e.1 e.2 ∧ WritableProperty e.1 e.2 := by
  rintro ⟨field, _⟩ he
  obtain ⟨value, rfl, hfield, hframe, hvalue⟩ := of_mem_headingLines he
  refine plain_fits field value hfield hframe (hvalue.imp_right ?_)
  rintro rfl
  exact hname

theorem complete_kind (issue : Issue) (next : Nat) (c : Component) :
    (complete issue next c).1.kind = c.kind := by
  cases c
  rfl

theorem kind_of_mem_completeAll (issue : Issue) (next : Nat) (cs : List Component) {kind : String}
    (hcs : ∀ c ∈ cs, c.kind = kind) : ∀ c ∈ (completeAll issue next cs).1, c.kind = kind := by
  induction cs generalizing next with
  | nil =>
      intro c hc
      cases hc
  | cons first cs ih =>
      intro c hc
      rcases List.mem_cons.mp hc with rfl | hc
      · rw [complete_kind]
        exact hcs first List.mem_cons_self
      · exact ih _ (fun other hother => hcs other (List.mem_cons_of_mem _ hother)) c hc

/-- What is read between the first and the last line of a calendar is the calendar. -/
theorem component?_enclosed {c : Component} {s : List Char}
    (hread : readOpen (.ofKind calendarKind) [] (s ++ plainLine "END:VCALENDAR".toList) =
      readOpen c [] (plainLine "END:VCALENDAR".toList)) (hc : c.kind = calendarKind) :
    component? (plainLine "BEGIN:VCALENDAR".toList ++ s ++ plainLine "END:VCALENDAR".toList) =
      some c := by
  have hname : IsName calendarKind.toList := List.all_eq_true.mp (by decide)
  have hopening : opening? (skipLineEnds (plainLine "BEGIN:VCALENDAR".toList ++
      (s ++ plainLine "END:VCALENDAR".toList))) =
        some (calendarKind.toList, lineEnd ++ (s ++ plainLine "END:VCALENDAR".toList)) :=
    opening?_begin hname (s ++ plainLine "END:VCALENDAR".toList)
  have hclosing := closing?_end calendarKind.toList []
  rw [List.append_nil, List.append_nil] at hclosing
  have hopen : readOpen (.ofKind calendarKind) [] (lineEnd ++
      (s ++ plainLine "END:VCALENDAR".toList)) = some (c, lineEnd) := by
    rw [readOpen_lineEnd, hread]
    refine readOpen_end ?_
    rw [hc]
    exact hclosing
  have hrest : (skipLineEnds lineEnd).isEmpty = true := rfl
  rw [List.append_assoc]
  simp only [component?, hopening, Option.bind_eq_bind, Option.bind_some, String.ofList_toList,
    hopen, hrest, if_true]

/-- What stands between the first and the last line of a calendar decides its events. -/
theorem component?_calendar {t : List Char} {f : Component → Component} (h : Reads t f)
    (hf : (f (.ofKind calendarKind)).kind = calendarKind) :
    component? (unfold (plainLine "BEGIN:VCALENDAR".toList ++ t ++
      plainLine "END:VCALENDAR".toList)) = some (f (.ofKind calendarKind)) := by
  obtain ⟨s, hfolded, hunbroken, hhead, hread⟩ := h
  have hbegin : IsUnbroken (plainLine "BEGIN:VCALENDAR".toList) := by decide
  have hend : IsUnbroken (plainLine "END:VCALENDAR".toList) := by decide
  have hunfold := unfold_of_folded
    (((Folded.refl (plainLine "BEGIN:VCALENDAR".toList)).append hfolded).append (.refl _))
    (isUnbroken_append (isUnbroken_append hbegin hunbroken hhead) hend (by simp [plainLine]))
  rw [hunfold]
  exact component?_enclosed (hread _ _ _) hf

/-- The text of a calendar. -/
def writtenCalendar (issue : Issue) (name description : String) (events : List Component) :
    List Char :=
  plainLine "BEGIN:VCALENDAR".toList ++ writeHeading name description ++
    (writeComponents issue 0 events).1 ++ plainLine "END:VCALENDAR".toList

theorem toList_write (issue : Issue) (name description : String) (events : List Component) :
    (write issue name description events).toList = writtenCalendar issue name description events :=
  String.toList_ofList

theorem writtenCalendar_eq (issue : Issue) (name description : String)
    (events : List Component) :
    writtenCalendar issue name description events =
      plainLine "BEGIN:VCALENDAR".toList ++
        ((headingLines name description).flatMap (fun e => writeProperty e.1 e.2) ++
          (writeComponents issue 0 events).1) ++ plainLine "END:VCALENDAR".toList := by
  rw [writtenCalendar, writeHeading_eq, List.append_assoc (plainLine _)]

/-- A text that begins as a calendar does is read as its component says. -/
theorem events?_of_component? {body : String}
    (hbeginning : (Text.dropPrefix? "BEGIN:VCALENDAR".toList (Text.trimStart body.toList)).isSome) :
    events? body =
      ((component? (unfold body.toList)).map fun c => .ok c.events).getD (.error .malformed) := by
  obtain ⟨rest, hrest⟩ := Option.isSome_iff_exists.mp hbeginning
  simp only [events?, hrest]
  cases component? (unfold body.toList) <;> rfl

theorem events?_write_eq (issue : Issue) (name description : String) (events : List Component) :
    events? (write issue name description events) =
      ((component? (unfold (writtenCalendar issue name description events))).map fun c =>
        .ok c.events).getD (.error .malformed) := by
  have hwrite := toList_write issue name description events
  rw [← hwrite]
  refine events?_of_component? ?_
  rw [hwrite]
  rfl

/-- A calendar that is written from such events is read as the completed events. -/
theorem events?_write (issue : Issue) (hstamp : '\n' ∉ issue.stamp.toList)
    (name description : String) (hname : '\n' ∉ name.toList) (events : List Component)
    (hevents : ∀ e ∈ events, e.Everywhere IsRead ∧ e.kind = eventKind)
    (hw : ∀ e ∈ events, e.Everywhere Writable) :
    events? (write issue name description events) = .ok (completeAll issue 0 events).1 := by
  have hheading := reads_properties _ (headingLines_fit name description hname)
  have hbody := (reads_writeComponents issue hstamp 0 events fun e he =>
    ⟨(hevents e he).1, hw e he⟩).1
  have hframe := addLines_frame (.ofKind calendarKind) (headingLines name description)
  have hcalendar := component?_calendar (hheading.append hbody) hframe.1
  have hfilter : (completeAll issue 0 events).1.filter (fun e => e.kind = eventKind) =
      (completeAll issue 0 events).1 := by
    rw [List.filter_eq_self]
    intro e he
    simpa using kind_of_mem_completeAll issue 0 events (fun c hc => (hevents c hc).2) e he
  rw [events?_write_eq, writtenCalendar_eq, hcalendar]
  simp only [Component.events, Function.comp_apply, Component.addChildren, hframe.1, hframe.2]
  exact congrArg Except.ok ((if_pos rfl).trans hfilter)

/-- Bodies that have been read make up a calendar that is read as the events of the bodies, in
order, each as it was but for the time stamp and the identifier that it may have lacked. The events
have to be writable; of the description nothing is asked, of the name only that it has no line
feed. -/
theorem merged_bodies_read_back (issue : Issue) (hstamp : '\n' ∉ issue.stamp.toList)
    (name description : String) (hname : '\n' ∉ name.toList) (bodies : List String)
    (parts : List (List Component)) (hread : bodies.map events? = parts.map .ok)
    (hw : ∀ events ∈ parts, ∀ e ∈ events, e.Everywhere Writable) :
    events? (write issue name description parts.flatten) =
        .ok (completeAll issue 0 parts.flatten).1 ∧
      List.Forall₂ Completes parts.flatten (completeAll issue 0 parts.flatten).1 := by
  refine ⟨events?_write issue hstamp name description hname parts.flatten (fun e he => ?_)
    (fun e he => ?_), completes_completeAll issue 0 parts.flatten⟩
  · obtain ⟨events, hevents, hmem⟩ := List.mem_flatten.mp he
    have hmap : Except.ok events ∈ bodies.map events? := hread ▸ List.mem_map_of_mem hevents
    obtain ⟨body, _, hbody⟩ := List.mem_map.mp hmap
    exact everywhere_of_events? hbody e hmem
  · obtain ⟨events, hevents, hmem⟩ := List.mem_flatten.mp he
    exact hw events hevents e hmem

theorem merged_body_reads_back :
    let issue : Issue := ⟨"20240101T000000Z", toString⟩
    let body := "BEGIN:VCALENDAR\r\nBEGIN:VEVENT\r\nSUMMARY:one\\, two\r\n" ++
      "ATTENDEE;CN=\"Doe, J\":mailto:j@x\r\nBEGIN:VALARM\r\nEND:VALARM\r\n" ++
      "END:VEVENT\r\nEND:VCALENDAR\r\n"
    ∃ events, events.length = 1 ∧ [body].map events? = [events].map .ok ∧
      (∀ e ∈ events, e.Everywhere Writable) ∧
      events? (write issue "name" "description" events) = .ok (completeAll issue 0 events).1 := by
  intro issue body
  -- One computation reads the body and checks its events; the law does the rest.
  have hcheck : (component? (unfold body.toList)).any (fun c =>
      decide (c.events.length = 1 ∧ ∀ e ∈ c.events, e.Everywhere Writable)) = true := by
    decide +kernel
  obtain ⟨c, hc, hwhole⟩ := (Option.any_eq_true _ _).mp hcheck
  obtain ⟨hlength, hw⟩ := of_decide_eq_true hwhole
  have hread : [body].map events? = [c.events].map .ok := by
    rw [List.map_singleton, List.map_singleton, events?_of_component? (by decide +kernel), hc]
    rfl
  have hback := (merged_bodies_read_back issue (by decide) "name" "description" (by decide) [body]
    [c.events] hread (by simpa using hw)).1
  rw [List.flatten_cons, List.flatten_nil, List.append_nil] at hback
  exact ⟨c.events, hlength, hread, hw, hback⟩

/-! ## Events that are not read back -/

theorem value?_of_completes {c d : Component} (h : Completes c d) {name : String}
    (hstamp : name ≠ "DTSTAMP") (huid : name ≠ "UID") : d.value? name = c.value? name := by
  obtain ⟨_, _, hkept, hadded, _⟩ := h
  unfold Component.value?
  cases hget : c.single.get? name with
  | none => rw [hadded name hget hstamp huid]
  | some p => rw [hkept name p hget]

theorem map_value?_of_completes {cs ds : List Component} (h : List.Forall₂ Completes cs ds)
    {name : String} (hstamp : name ≠ "DTSTAMP") (huid : name ≠ "UID") :
    ds.map (·.value? name) = cs.map (·.value? name) := by
  induction h with
  | nil => rfl
  | cons hfirst _ ih =>
      rw [List.map_cons, List.map_cons, ih, value?_of_completes hfirst hstamp huid]

/-- The body of a calendar with one event with this line. -/
def bodyOf (line : String) : String :=
  "BEGIN:VCALENDAR" ++ ("\r\nBEGIN:VEVENT\r\n" ++ line ++ "\r\nEND:VEVENT\r\nEND:VCALENDAR\r\n")

/-- An event with this line is read, but the calendar that is written from it is not read as a
calendar with that event. -/
def IsLost (line : String) : Prop :=
  ∃ events, events? (bodyOf line) = .ok events ∧
    ¬∃ read, events? (write ⟨"20240101T000000Z", toString⟩ "n" "d" events) = .ok read ∧
      List.Forall₂ Completes events read

/-- A line is lost if the calendar is not read, or with another value of some property. -/
theorem isLost_of_value? {line name : String} (hstamp : name ≠ "DTSTAMP") (huid : name ≠ "UID")
    (hvalues : (component? (unfold (bodyOf line).toList)).any (fun c =>
      (component? (unfold (writtenCalendar ⟨"20240101T000000Z", toString⟩ "n" "d" c.events))).all
        fun d => d.events.map (·.value? name) != c.events.map (·.value? name)) = true) :
    IsLost line := by
  obtain ⟨c, hc, hall⟩ := (Option.any_eq_true _ _).mp hvalues
  refine ⟨c.events, ?_, ?_⟩
  · have hbeginning : (Text.dropPrefix? "BEGIN:VCALENDAR".toList
        (Text.trimStart (bodyOf line).toList)).isSome := by
      rw [bodyOf, String.toList_append]
      rfl
    rw [events?_of_component? hbeginning, hc]
    rfl
  · rintro ⟨read, hread, hcompletes⟩
    rw [events?_write_eq] at hread
    cases hd : component? (unfold (writtenCalendar ⟨"20240101T000000Z", toString⟩ "n" "d"
        c.events)) with
    | none =>
        rw [hd] at hread
        cases hread
    | some d =>
        rw [hd] at hread hall
        -- Completing keeps the values of all names but two, and those of this name differ.
        obtain rfl : d.events = read := Except.ok.inj hread
        have hsame := map_value?_of_completes hcompletes hstamp huid
        simp [hsame] at hall

/-- Not every body that is read is read back: a name may begin components, a parameter value may
have a mark and a comma or a mark that is left open, and a value may have a line feed before a
space. -/
theorem bodies_not_read_back :
    IsLost "BEGIN" ∧ IsLost "X-A;P=a\"b,c:v" ∧ IsLost "SUMMARY:\"hi\"\r\nLOCATION;P=\"a:v" ∧
      IsLost "URL:a\n\r\n  b" := by
  have hstamp : "URL" ≠ "DTSTAMP" := by decide
  have huid : "URL" ≠ "UID" := by decide
  refine ⟨?_, ?_, ?_, ?_⟩
  · exact isLost_of_value? hstamp huid (by decide +kernel)
  · exact isLost_of_value? hstamp huid (by decide +kernel)
  · exact isLost_of_value? hstamp huid (by decide +kernel)
  · exact isLost_of_value? hstamp huid (by decide +kernel)

end Almanac.Calendar
