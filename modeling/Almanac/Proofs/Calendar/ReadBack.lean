import Almanac.Proofs.Calendar.Components

/-!
# Written text in front of the reader

A written text takes the reader of its unfolded form from one component to another,
whatever follows. Such texts can be put one behind the other, so that what a calendar
is read as can be told from its lines.
-/

namespace Almanac.Calendar

/-- Unfolded, the text changes the component that is being read like this. It does not begin with a
blank, so that it can stand behind a line end. -/
def Reads (t : List Char) (f : Component → Component) : Prop :=
  ∃ s, Folded t s ∧ IsUnbroken s ∧ (∀ c ∈ s.head?, c ≠ ' ' ∧ c ≠ '\t') ∧
    ∀ here outer rest, readOpen here outer (s ++ rest) = readOpen (f here) outer rest

namespace Reads

theorem nil : Reads [] id := ⟨[], .nil, .nil, by simp, fun _ _ _ => rfl⟩

theorem append {t t' : List Char} {f g : Component → Component} (h : Reads t f)
    (h' : Reads t' g) : Reads (t ++ t') (g ∘ f) := by
  obtain ⟨s, hfolded, hunbroken, hhead, hread⟩ := h
  obtain ⟨s', hfolded', hunbroken', hhead', hread'⟩ := h'
  refine ⟨s ++ s', hfolded.append hfolded', isUnbroken_append hunbroken hunbroken' hhead', ?_, ?_⟩
  · cases s with
    | nil => exact hhead'
    | cons c s => exact hhead
  · intro here outer rest
    rw [List.append_assoc, hread, hread']
    rfl

end Reads

theorem skipLineEnds_eq_self {s : List Char} (hs : ∀ c ∈ s.head?, c ≠ '\r' ∧ c ≠ '\n') :
    skipLineEnds s = s := by
  cases s with
  | nil => rfl
  | cons c s =>
      obtain ⟨hreturn, hfeed⟩ := hs c rfl
      rw [skipLineEnds]
      · rintro _ heq
        exact hfeed (List.cons.inj heq).1
      · rintro _ heq
        exact hreturn (List.cons.inj heq).1

/-! ## Properties -/

/-- What stands at the start of a line is no blank and no line end. -/
theorem head_name {name : List Char} (hname : IsName name) {stop : Char}
    (hstop : stop = ';' ∨ stop = ':') (t : List Char) :
    ∀ c ∈ (name ++ stop :: t).head?, c ≠ ' ' ∧ c ≠ '\t' ∧ c ≠ '\r' ∧ c ≠ '\n' := by
  intro c hc
  cases name with
  | nil =>
      obtain rfl : stop = c := Option.some.inj hc
      rcases hstop with rfl | rfl <;> decide
  | cons d name =>
      obtain rfl : d = c := Option.some.inj hc
      have hd := hname d List.mem_cons_self
      refine ⟨?_, ?_, ?_, ?_⟩ <;> rintro rfl <;> exact absurd hd (by decide)

/-- A line with a name that is neither of the two words adds a property, whatever follows. -/
theorem readOpen_lineText {name : String} (hname : IsName name.toList) (hframe : ¬IsFrame name)
    {params : List (String × String)}
    (hparams : ∀ q ∈ params, IsParameter q.1.toList q.2.toList ∧ WritableValue q.2.toList)
    {v : List Char} (hv : IsOneLine v) (here : Component) (outer : List Component)
    (rest : List Char) :
    readOpen here outer (lineText name.toList params v ++ lineEnd ++ rest) =
      readOpen (here.add name
        (Line.property ⟨name.toList, params.map fun q => (q.1.toList, q.2.toList), v⟩))
        outer rest := by
  obtain ⟨stop, t, hstop, ht⟩ := exists_lineText_eq name.toList params v rest
  have hskip : skipLineEnds (lineText name.toList params v ++ lineEnd ++ rest) =
      lineText name.toList params v ++ lineEnd ++ rest := skipLineEnds_eq_self fun c hc =>
    (head_name hname hstop t c (ht ▸ hc)).2.2
  obtain ⟨hbegin, hend⟩ := not_or.mp hframe
  have hclosing : closing? here.kind.toList
      (skipLineEnds (lineText name.toList params v ++ lineEnd ++ rest)) = none := by
    rw [hskip, ht, closing?, show "END:".toList = "END".toList ++ [':'] from rfl,
      afterWord?_name (by decide) hname hend hstop]
    rfl
  have hopening : opening? (skipLineEnds (lineText name.toList params v ++ lineEnd ++ rest)) =
      none := by
    rw [hskip, ht, opening?, show "BEGIN:".toList = "BEGIN".toList ++ [':'] from rfl,
      afterWord?_name (by decide) hname hbegin hstop]
    rfl
  rw [readOpen_line hclosing hopening (hskip ▸ line?_lineText hname hframe hparams hv rest),
    String.ofList_toList]

theorem reads_property {name : String} {p : Property} (hp : IsProperty name p)
    (hw : WritableProperty name p) :
    Reads (writeProperty name p) (fun here => here.add name p) := by
  refine ⟨writtenLine name p ++ lineEnd, (folded_fold _).append (.refl _),
    isUnbroken_writtenLine hp hw, ?_, ?_⟩
  · obtain ⟨stop, t, hstop, ht⟩ :=
      exists_lineText_eq name.toList p.params.entries (writeValue name p) []
    rw [List.append_nil] at ht
    intro c hc
    have hhead : c ∈ (name.toList ++ stop :: t).head? := ht ▸ hc
    obtain ⟨hspace, htab, _⟩ := head_name hp.name hstop t c hhead
    exact ⟨hspace, htab⟩
  · intro here outer rest
    have hread := readOpen_lineText hp.name hw.frame
      (fun q hq => ⟨hp.params q hq, (hw.params q hq).1⟩) (writeValue_fits hw).2 here outer rest
    rw [show Line.mk name.toList _ (writeValue name p) = lineOf name p from rfl,
      property_lineOf] at hread
    exact hread

/-- The component with properties added in order. -/
def Component.addLines (c : Component) (lines : List (String × Property)) : Component :=
  lines.foldl (fun c e => c.add e.1 e.2) c

theorem reads_properties (lines : List (String × Property))
    (hlines : ∀ e ∈ lines, IsProperty e.1 e.2 ∧ WritableProperty e.1 e.2) :
    Reads (lines.flatMap fun e => writeProperty e.1 e.2) (fun here => here.addLines lines) := by
  induction lines with
  | nil => exact Reads.nil
  | cons e lines ih =>
      obtain ⟨hp, hw⟩ := hlines e List.mem_cons_self
      exact (reads_property hp hw).append
        (ih fun other hother => hlines other (List.mem_cons_of_mem _ hother))

/-! ## Components -/

theorem addLines_frame (c : Component) (lines : List (String × Property)) :
    (c.addLines lines).kind = c.kind ∧ (c.addLines lines).children = c.children := by
  induction lines generalizing c with
  | nil => exact ⟨rfl, rfl⟩
  | cons e lines ih =>
      have hrest := ih (c.add e.1 e.2)
      rw [Component.add_kind, Component.add_children] at hrest
      exact hrest

theorem opening?_begin {kind : List Char} (hkind : IsName kind) (rest : List Char) :
    opening? (plainLine ("BEGIN:".toList ++ kind) ++ rest) = some (kind, lineEnd ++ rest) := by
  have hshape : plainLine ("BEGIN:".toList ++ kind) ++ rest =
      "BEGIN:".toList ++ (kind ++ '\r' :: '\n' :: rest) := by
    simp [plainLine, lineEnd]
  have hword : afterWord? "BEGIN:".toList ("BEGIN:".toList ++ (kind ++ '\r' :: '\n' :: rest)) =
      some (kind ++ '\r' :: '\n' :: rest) := rfl
  rw [opening?, hshape, hword, Option.map_some, nameOf_append hkind (by decide),
    afterName_append hkind (by decide)]
  rfl

theorem closing?_begin (kind s : List Char) : closing? kind ("BEGIN:".toList ++ s) = none := rfl

theorem closing?_end (kind rest : List Char) :
    closing? kind (plainLine ("END:".toList ++ kind) ++ rest) = some (lineEnd ++ rest) := by
  have hword : afterWord? "END:".toList (plainLine ("END:".toList ++ kind) ++ rest) =
      some (kind ++ lineEnd ++ rest) := rfl
  rw [closing?, hword, Option.bind_some, Text.dropPrefix?_eq_some_iff, List.append_assoc]

theorem isUnbroken_plainLine {s : List Char} (hs : '\n' ∉ s) : IsUnbroken (plainLine s) :=
  isUnbroken_append (isUnbroken_of_not_mem hs) (by decide) (by simp [lineEnd])

/-- What is read between the first and the last line of a component lies inside the component around
it then. -/
theorem readOpen_enclosed {kind : String} (hkind : IsName kind.toList) {c here : Component}
    {outer : List Component} {s rest : List Char}
    (hread : readOpen (.ofKind kind) (here :: outer)
        (s ++ (plainLine ("END:".toList ++ kind.toList) ++ rest)) =
      readOpen c (here :: outer) (plainLine ("END:".toList ++ kind.toList) ++ rest))
    (hc : c.kind = kind) :
    readOpen here outer (plainLine ("BEGIN:".toList ++ kind.toList) ++ s ++
        plainLine ("END:".toList ++ kind.toList) ++ rest) =
      readOpen (here.addChild c) outer rest := by
  have hclosing : closing? c.kind.toList
      (skipLineEnds (plainLine ("END:".toList ++ kind.toList) ++ rest)) =
        some (lineEnd ++ rest) := by
    rw [hc]
    exact closing?_end kind.toList rest
  rw [List.append_assoc, List.append_assoc,
    readOpen_opening (closing?_begin _ _) (opening?_begin hkind _), String.ofList_toList,
    readOpen_lineEnd, hread, readOpen_closing hclosing, readOpen_lineEnd]

/-- Between its first and its last line the text of a component changes a new component of that
kind, which then lies inside the component around it. -/
theorem reads_component {kind : String} (hkind : IsName kind.toList) {t : List Char}
    {f : Component → Component} (h : Reads t f) (hf : (f (.ofKind kind)).kind = kind) :
    Reads (plainLine ("BEGIN:".toList ++ kind.toList) ++ t ++
        plainLine ("END:".toList ++ kind.toList))
      (fun here => here.addChild (f (.ofKind kind))) := by
  obtain ⟨s, hfolded, hunbroken, hhead, hread⟩ := h
  have hbegin : IsUnbroken (plainLine ("BEGIN:".toList ++ kind.toList)) :=
    isUnbroken_plainLine (by simpa using hkind.newline_not_mem)
  have hend : IsUnbroken (plainLine ("END:".toList ++ kind.toList)) :=
    isUnbroken_plainLine (by simpa using hkind.newline_not_mem)
  refine ⟨plainLine ("BEGIN:".toList ++ kind.toList) ++ s ++
    plainLine ("END:".toList ++ kind.toList), ((Folded.refl _).append hfolded).append (.refl _),
    isUnbroken_append (isUnbroken_append hbegin hunbroken hhead) hend (by simp [plainLine]),
    by simp [plainLine], fun here outer rest => ?_⟩
  exact readOpen_enclosed hkind (hread _ _ _) hf

end Almanac.Calendar
