import Almanac.Proofs.Calendar.RoundTrip
import Almanac.Proofs.Calendar.Seams

/-!
# Components that stay apart

Which components a calendar is read with, and which of them lie in which, is told by the
lines that begin and end them. A property line leaves all that as it is if it is read as
one line. This asks less than that the property is read back: a value that is not
escaped may lose a line feed with a blank behind it, but must have no line end inside.
-/

namespace Almanac.Calendar

open Component

/-! ## Single lines -/

/-- The line of the property, written and unfolded, is read as the property, whatever component is
being read and whatever follows. -/
def ReadsBack (name : String) (p : Property) : Prop :=
  ∀ (here : Component) (outer : List Component) (rest : List Char),
    readOpen here outer (unfold (writeProperty name p) ++ rest) =
      readOpen (here.add name p) outer rest

/-- The line of the property, written and unfolded, leaves the components as they are, whatever
component is being read and whatever follows. -/
structure StaysInLine (name : String) (p : Property) : Prop where
  isName : IsName name.toList
  read : ∀ (here : Component) (outer : List Component) (rest : List Char), ∃ here' : Component,
    here'.kind = here.kind ∧ here'.children = here.children ∧
      readOpen here outer (unfold (writeProperty name p) ++ rest) = readOpen here' outer rest

theorem ReadsBack.staysInLine {name : String} {p : Property} (h : ReadsBack name p)
    (hname : IsName name.toList) : StaysInLine name p :=
  ⟨hname, fun here outer rest =>
    ⟨here.add name p, add_kind here name p, add_children here name p, h here outer rest⟩⟩

theorem readsBack_of_writable {name : String} {p : Property} (hp : IsProperty name p)
    (hw : WritableProperty name p) : ReadsBack name p := by
  obtain ⟨s, hfolded, hunbroken, _, hread⟩ := reads_property hp hw
  intro here outer rest
  rw [unfold_of_folded hfolded hunbroken]
  exact hread here outer rest

/-- Behind this name and without parameters the value stays in its line. -/
structure FitsLine (name value : String) : Prop where
  isName : IsName name.toList
  frame : ¬IsFrame name
  value : ValueType.isEscaped name none = true ∨ IsOneLine value.toList

theorem fitsLine_iff (name value : String) :
    FitsLine name value ↔ name.toList.all isNameChar = true ∧ ¬IsFrame name ∧
      (ValueType.isEscaped name none = true ∨ IsOneLine value.toList) :=
  ⟨fun h => ⟨List.all_eq_true.mpr h.isName, h.frame, h.value⟩,
    fun h => ⟨List.all_eq_true.mp h.1, h.2.1, h.2.2⟩⟩

instance (name value : String) : Decidable (FitsLine name value) :=
  decidable_of_iff' _ (fitsLine_iff name value)

theorem isOneLine_writeValue {name value : String} (h : FitsLine name value) :
    IsOneLine (writeValue name ⟨∅, value⟩) := by
  unfold writeValue
  split
  next => exact isOneLine_of_not_mem (newline_not_mem_escape _)
  next hraw => exact h.value.resolve_left hraw

theorem isOneLine_append {s t : List Char} (hs : '\n' ∉ s) (ht : IsOneLine t)
    (hlast : ∀ c ∈ s.getLast?, c ≠ '\r') : IsOneLine (s ++ t) :=
  (isOneLine_of_not_mem hs).append ht fun c hc _ _ heq => absurd heq (hlast c hc)

/-- The end of a line is not taken for the beginning of a mark. -/
theorem unfold_plainLine (s : List Char) : unfold (plainLine s) = unfold s ++ lineEnd := by
  have hmeets : Meets s lineEnd := by
    intro c _ d hd
    obtain rfl : '\r' = d := Option.some.inj hd
    exact ⟨fun _ => by decide, fun _ => by decide⟩
  rw [plainLine, unfold_append hmeets]
  rfl

theorem staysInLine_of_fitsLine {name value : String} (h : FitsLine name value) :
    StaysInLine name ⟨∅, value⟩ := by
  refine ⟨h.isName, fun here outer rest => ?_⟩
  have hbefore : '\n' ∉ name.toList ++ [':'] := by simpa using h.isName.newline_not_mem
  have hline : IsOneLine (name.toList ++ [':'] ++ writeValue name ⟨∅, value⟩) :=
    isOneLine_append hbefore (isOneLine_writeValue h) (by simp)
  -- The line has no line end, and what is left of it when it is unfolded has none either.
  have hthin := thinned_unfold (folded_fold _) hline
  obtain ⟨v, hv, _⟩ := hthin.exists_append hbefore
  have hone : IsOneLine v := ((hv ▸ hthin.isOneLine hline : IsOneLine (_ ++ v))).right_of_append
  have hwritten : unfold (writeProperty name ⟨∅, value⟩) =
      lineText name.toList [] v ++ lineEnd := by
    have hshape : writeProperty name ⟨∅, value⟩ =
        plainLine (fold (name.toList ++ [':'] ++ writeValue name ⟨∅, value⟩)) := by
      have hnone : (∅ : Dictionary String).entries = [] := rfl
      simp [writeProperty, hnone]
    rw [hshape, unfold_plainLine, hv]
    simp [lineText, writtenParameters]
  have hnone : ∀ q ∈ ([] : List (String × String)),
      IsParameter q.1.toList q.2.toList ∧ WritableValue q.2.toList := by simp
  have hread := readOpen_lineText h.isName h.frame hnone hone here outer rest
  exact ⟨_, add_kind _ _ _, add_children _ _ _, hwritten ▸ hread⟩

/-! ## Whole components -/

namespace Component

/-- The property lines of the component are read back, apart from the components inside it. -/
structure LinesReadBack (c : Component) : Prop where
  single : ∀ name p, c.single.get? name = some p → ReadsBack name p
  repeated : ∀ name ps, c.repeated.get? name = some ps → ∀ p ∈ ps, ReadsBack name p

/-- The property lines of the component stay in their lines, apart from the components inside it. -/
structure StaysInLines (c : Component) : Prop where
  kind : IsName c.kind.toList
  single : ∀ name p, c.single.get? name = some p → StaysInLine name p
  repeated : ∀ name ps, c.repeated.get? name = some ps → ∀ p ∈ ps, StaysInLine name p

theorem staysInLines_ofKind {kind : String} (hkind : IsName kind.toList) :
    (ofKind kind).StaysInLines where
  kind := hkind
  single name p hp := by simp [ofKind] at hp
  repeated name ps hps := by simp [ofKind] at hps

theorem StaysInLines.setValue {c : Component} (hc : c.StaysInLines) {name value : String}
    (h : FitsLine name value) : (c.setValue name value).StaysInLines where
  kind := hc.kind
  single other p hp := by
    rw [Component.setValue, Component.set, Dictionary.get?_set] at hp
    split at hp
    next heq =>
      obtain rfl := Option.some.inj hp
      exact heq ▸ staysInLine_of_fitsLine h
    next => exact hc.single other p hp
  repeated := hc.repeated

theorem Everywhere.imp₂ {P Q R : Component → Prop} (h : ∀ c, P c → Q c → R c) {c : Component}
    (hp : c.Everywhere P) (hq : c.Everywhere Q) : c.Everywhere R := by
  induction hp with
  | intro c here _ ih =>
      obtain ⟨_, here', inside'⟩ := hq
      exact ⟨c, h c here here', fun child hchild => ih child hchild (inside' child hchild)⟩

theorem linesReadBack_of_writable (c : Component) (hc : c.IsRead) (hw : c.Writable) :
    c.LinesReadBack where
  single name p hp := readsBack_of_writable (hc.single name p hp).2 (hw.single name p hp)
  repeated name ps hps p hp := readsBack_of_writable ((hc.repeated name ps hps).2.2 p hp)
    (hw.repeated name ps hps p hp)

theorem staysInLines_of_linesReadBack (c : Component) (hc : c.IsRead) (hl : c.LinesReadBack) :
    c.StaysInLines where
  kind := hc.kind
  single name p hp := (hl.single name p hp).staysInLine (hc.single name p hp).2.name
  repeated name ps hps p hp :=
    (hl.repeated name ps hps p hp).staysInLine ((hc.repeated name ps hps).2.2 p hp).name

end Component

/-! ## Texts of whole lines -/

/-- The text ends where a line ends. -/
def EndsLine (t : List Char) : Prop := ∀ c ∈ t.getLast?, c = '\n'

/-- The text does not go on with a folded line. -/
def BeginsLine (t : List Char) : Prop := ∀ c ∈ t.head?, c ≠ ' ' ∧ c ≠ '\t'

theorem meets_of_lines {s t : List Char} (hs : EndsLine s) (ht : BeginsLine t) : Meets s t := by
  intro c hc d hd
  obtain rfl := hs c hc
  exact ⟨fun heq => absurd heq (by decide), fun _ => ht d hd⟩

theorem endsLine_plainLine (s : List Char) : EndsLine (plainLine s) := by
  simp [EndsLine, plainLine, lineEnd]

theorem EndsLine.append {s t : List Char} (hs : EndsLine s) (ht : EndsLine t) :
    EndsLine (s ++ t) := by
  intro c hc
  rw [List.getLast?_append] at hc
  rcases Option.or_eq_some_iff.mp hc with hc | ⟨_, hc⟩
  · exact ht c hc
  · exact hs c hc

theorem BeginsLine.append {s t : List Char} (hs : BeginsLine s) (ht : BeginsLine t) :
    BeginsLine (s ++ t) := by
  intro c hc
  rw [List.head?_append] at hc
  rcases Option.or_eq_some_iff.mp hc with hc | ⟨_, hc⟩
  · exact hs c hc
  · exact ht c hc

/-- Between two lines without line feeds a text of whole lines is unfolded on its own. -/
theorem unfold_between {first t last : List Char} (hfirst : '\n' ∉ first) (hlast : '\n' ∉ last)
    (hends : EndsLine t) (hbegins : BeginsLine t) (hgoes : BeginsLine (plainLine last)) :
    unfold (plainLine first ++ t ++ plainLine last) =
      plainLine first ++ unfold t ++ plainLine last := by
  have hwhole {s : List Char} (hs : '\n' ∉ s) : unfold (plainLine s) = plainLine s :=
    unfold_of_folded (.refl _) (isUnbroken_plainLine hs)
  rw [unfold_append (meets_of_lines ((endsLine_plainLine first).append hends) hgoes),
    unfold_append (meets_of_lines (endsLine_plainLine first) hbegins), hwhole hfirst, hwhole hlast]

/-! ## Components inside each other -/

/-- The components have the same kind and correspond inside. -/
inductive SameFrame : Component → Component → Prop
  | intro {c d : Component} (kind : d.kind = c.kind)
      (children : List.Forall₂ SameFrame c.children d.children) : SameFrame c d

/-- The text consists of whole lines, and when it is unfolded, components of the same frame as these
are read from it and put into the component that is being read. -/
structure Frames (t : List Char) (inside : List Component) : Prop where
  ends : EndsLine t
  begins : BeginsLine t
  read : ∀ (here : Component) (outer : List Component) (rest : List Char),
    ∃ (here' : Component) (inside' : List Component), here'.kind = here.kind ∧
      here'.children = here.children ++ inside' ∧ List.Forall₂ SameFrame inside inside' ∧
        readOpen here outer (unfold t ++ rest) = readOpen here' outer rest

namespace Frames

theorem nil : Frames [] [] :=
  ⟨by simp [EndsLine], by simp [BeginsLine],
    fun here _ _ => ⟨here, [], rfl, (List.append_nil _).symm, .nil, rfl⟩⟩

theorem append {t t' : List Char} {inside inside' : List Component} (h : Frames t inside)
    (h' : Frames t' inside') : Frames (t ++ t') (inside ++ inside') := by
  refine ⟨h.ends.append h'.ends, h.begins.append h'.begins, fun here outer rest => ?_⟩
  obtain ⟨middle, cs, hkind, hchildren, hsame, hread⟩ := h.read here outer (unfold t' ++ rest)
  obtain ⟨last, ds, hkind', hchildren', hsame', hread'⟩ := h'.read middle outer rest
  refine ⟨last, cs ++ ds, hkind'.trans hkind, ?_, List.rel_append hsame hsame', ?_⟩
  · rw [hchildren', hchildren, List.append_assoc]
  · rw [unfold_append (meets_of_lines h.ends h'.begins), List.append_assoc, hread, hread']

end Frames

theorem Folded.head {t s : List Char} (h : Folded t s) :
    ∀ c ∈ t.head?, c = '\r' ∨ c ∈ s.head? := by
  intro c hc
  cases h with
  | nil => cases hc
  | char => exact .inr hc
  | mark => exact .inl (Option.some.inj hc).symm

theorem beginsLine_writeProperty {name : String} (hname : IsName name.toList) (p : Property) :
    BeginsLine (writeProperty name p) := by
  obtain ⟨stop, t, hstop, ht⟩ :=
    exists_lineText_eq name.toList p.params.entries (writeValue name p) []
  rw [List.append_nil] at ht
  have hfolded : Folded (writeProperty name p) (name.toList ++ stop :: t) :=
    ht ▸ (folded_fold _).append (.refl lineEnd)
  intro c hc
  rcases hfolded.head c hc with rfl | hc
  · decide
  · obtain ⟨hspace, htab, _⟩ := head_name hname hstop t c hc
    exact ⟨hspace, htab⟩

theorem frames_property {name : String} {p : Property} (h : StaysInLine name p) :
    Frames (writeProperty name p) [] := by
  refine ⟨endsLine_plainLine _, beginsLine_writeProperty h.isName p, fun here outer rest => ?_⟩
  obtain ⟨here', hkind, hchildren, hread⟩ := h.read here outer rest
  exact ⟨here', [], hkind, by rw [hchildren, List.append_nil], .nil, hread⟩

theorem frames_properties (lines : List (String × Property))
    (hlines : ∀ e ∈ lines, StaysInLine e.1 e.2) :
    Frames (lines.flatMap fun e => writeProperty e.1 e.2) [] := by
  induction lines with
  | nil => exact .nil
  | cons e lines ih =>
      exact (frames_property (hlines e List.mem_cons_self)).append
        (ih fun other hother => hlines other (List.mem_cons_of_mem _ hother))

/-- Between its first and its last line a component is read with what its text puts there. -/
theorem frames_component {c : Component} (hkind : IsName c.kind.toList) {t : List Char}
    (h : Frames t c.children) :
    Frames (plainLine ("BEGIN:".toList ++ c.kind.toList) ++ t ++
      plainLine ("END:".toList ++ c.kind.toList)) [c] := by
  have hfirst : '\n' ∉ "BEGIN:".toList ++ c.kind.toList := by simpa using hkind.newline_not_mem
  have hlast : '\n' ∉ "END:".toList ++ c.kind.toList := by simpa using hkind.newline_not_mem
  have hgoes : BeginsLine (plainLine ("END:".toList ++ c.kind.toList)) := by
    simp [BeginsLine, plainLine]
  refine ⟨((endsLine_plainLine _).append h.ends).append (endsLine_plainLine _),
    by simp [BeginsLine, plainLine], fun here outer rest => ?_⟩
  obtain ⟨d, inside, hsame, hchildren, hinside, hread⟩ := h.read (.ofKind c.kind) (here :: outer)
    (plainLine ("END:".toList ++ c.kind.toList) ++ rest)
  refine ⟨here.addChild d, [d], rfl, rfl, .cons (.intro hsame ?_) .nil, ?_⟩
  · rw [hchildren]
    exact hinside
  · rw [unfold_between hfirst hlast h.ends h.begins hgoes]
    exact readOpen_enclosed hkind hread hsame

theorem propertyLines_stay (issue : Issue) (hstamp : IsOneLine issue.stamp.toList) (next : Nat)
    (c : Component) (hc : c.StaysInLines) :
    ∀ e ∈ propertyLines issue next c, StaysInLine e.1 e.2 := by
  have hstampLine : StaysInLine "DTSTAMP" ⟨∅, issue.stamp⟩ :=
    staysInLine_of_fitsLine ⟨List.all_eq_true.mp (by decide), by decide, .inr hstamp⟩
  have huidLine : StaysInLine "UID" ⟨∅, issue.identifier next⟩ :=
    staysInLine_of_fitsLine ⟨List.all_eq_true.mp (by decide), by decide, .inl (by decide)⟩
  exact forall_mem_propertyLines hstampLine huidLine hc.single hc.repeated

mutual

theorem frames_writeComponent (issue : Issue) (hstamp : IsOneLine issue.stamp.toList) (next : Nat)
    (c : Component) (hc : c.Everywhere StaysInLines) :
    Frames (writeComponent issue next c).1 [c] := by
  obtain ⟨kind, single, repeated, children⟩ := c
  obtain ⟨_, hhere, hinside⟩ := hc
  have hlines := frames_properties _ (propertyLines_stay issue hstamp next _ hhere)
  have hinner := frames_writeComponents issue hstamp
    (if single.contains "UID" then next else next + 1) children hinside
  rw [writeComponent_eq]
  exact frames_component hhere.kind (hlines.append hinner)

theorem frames_writeComponents (issue : Issue) (hstamp : IsOneLine issue.stamp.toList)
    (next : Nat) (cs : List Component) (hcs : ∀ c ∈ cs, c.Everywhere StaysInLines) :
    Frames (writeComponents issue next cs).1 cs := by
  cases cs with
  | nil =>
      rw [writeComponents]
      exact .nil
  | cons c cs =>
      have hfirst := frames_writeComponent issue hstamp next c (hcs c List.mem_cons_self)
      have hothers := frames_writeComponents issue hstamp (writeComponent issue next c).2 cs
        fun other hother => hcs other (List.mem_cons_of_mem _ hother)
      rw [writeComponents]
      exact hfirst.append hothers

end

theorem headingLines_stay (name description : String) (hname : IsOneLine name.toList) :
    ∀ e ∈ headingLines name description, StaysInLine e.1 e.2 := by
  rintro ⟨field, _⟩ he
  obtain ⟨value, rfl, hfield, hframe, hvalue⟩ := of_mem_headingLines he
  refine staysInLine_of_fitsLine ⟨List.all_eq_true.mp hfield, hframe, hvalue.imp_right ?_⟩
  rintro rfl
  exact hname

/-- What the frames of components decide is the same of both. -/
theorem map_eq_of_sameFrame {α : Type} {f : Component → α}
    (hf : ∀ c d, SameFrame c d → f d = f c) {cs ds : List Component}
    (h : List.Forall₂ SameFrame cs ds) : ds.map f = cs.map f := by
  induction h with
  | nil => rfl
  | cons hfirst _ ih => rw [List.map_cons, List.map_cons, ih, hf _ _ hfirst]

theorem SameFrame.kind_eq {c d : Component} (h : SameFrame c d) : d.kind = c.kind := by
  obtain ⟨hkind, _⟩ := h
  exact hkind

namespace Component

/-- The number of alarms directly inside the component. -/
def alarmCount (c : Component) : Nat := c.children.countP fun child => child.kind = alarmKind

theorem alarmCount_eq (c : Component) :
    c.alarmCount = (c.children.map (·.kind)).countP fun kind => kind = alarmKind := by
  rw [List.countP_map]
  rfl

end Component

theorem SameFrame.alarmCount_eq {c d : Component} (h : SameFrame c d) :
    d.alarmCount = c.alarmCount := by
  obtain ⟨_, hchildren⟩ := h
  rw [Component.alarmCount_eq, Component.alarmCount_eq,
    map_eq_of_sameFrame (fun _ _ => SameFrame.kind_eq) hchildren]

/-- A calendar of events whose lines stay in their lines is read with these events and the
components inside them. Of the description nothing is asked, of the name only that it has no line
end. -/
theorem events?_write_sameFrame (issue : Issue) (hstamp : IsOneLine issue.stamp.toList)
    (name description : String) (hname : IsOneLine name.toList) (events : List Component)
    (hevents : ∀ e ∈ events, e.Everywhere StaysInLines ∧ e.kind = eventKind) :
    ∃ read, events? (write issue name description events) = .ok read ∧
      List.Forall₂ SameFrame events read := by
  have hinner := (frames_properties _ (headingLines_stay name description hname)).append
    (frames_writeComponents issue hstamp 0 events fun e he => (hevents e he).1)
  obtain ⟨calendar, read, hkind, hchildren, hsame, hread⟩ :=
    hinner.read (.ofKind calendarKind) [] (plainLine "END:VCALENDAR".toList)
  have hgoes : BeginsLine (plainLine "END:VCALENDAR".toList) := by
    simp [BeginsLine, plainLine]
  have hcalendar : component? (unfold (writtenCalendar issue name description events)) =
      some calendar := by
    rw [writtenCalendar_eq, unfold_between (by decide) (by decide) hinner.ends hinner.begins hgoes]
    exact component?_enclosed hread hkind
  have hfilter : read.filter (fun e => e.kind = eventKind) = read := by
    rw [List.filter_eq_self]
    intro e he
    have hmem := List.mem_map_of_mem (f := Component.kind) he
    rw [map_eq_of_sameFrame (fun _ _ => SameFrame.kind_eq) hsame] at hmem
    obtain ⟨c, hc, hkind⟩ := List.mem_map.mp hmem
    simpa [← hkind] using (hevents c hc).2
  refine ⟨read, ?_, hsame⟩
  rw [events?_write_eq, hcalendar]
  have hall : calendar.children = read := by simpa [ofKind] using hchildren
  have hevents' : calendar.events = read := by
    rw [Component.events, if_pos (show calendar.kind = calendarKind from hkind), hall]
    exact hfilter
  rw [Option.map_some, hevents', Option.getD_some]

end Almanac.Calendar
