import Almanac.Proofs.Calendar.ReadBack

/-!
# Outlines of components

A component does not tell all the lines that it has been read from: a line whose name has been
given before may take the place of that one, and the order of the lines is lost. The outline of
a component keeps its lines. Outlines are read in the steps in which components are, and the
component of an outline that has been read is the component that would have been.
-/

namespace Almanac.Calendar

/-- A component as it is written: its kind, its property lines in order, and the components inside
it. -/
structure Outline where
  kind : String
  lines : List Line
  inner : List Outline

/-- The name and the property of a line. -/
def Line.entry (line : Line) : String × Property := (String.ofList line.name, line.property)

namespace Component

theorem get?_single_add (c : Component) (name other : String) (p : Property) :
    (c.add name p).single.get? other =
      if name ∉ repeatableNames ∧ name = other then some p else c.single.get? other := by
  unfold add
  split
  next hname => simp [addRepeated, hname]
  next hname => simp [set, hname]

theorem get?_repeated_add (c : Component) (name other : String) (p : Property) :
    (c.add name p).repeated.get? other =
      if name ∈ repeatableNames ∧ name = other then
        some ((c.repeated.get? other).getD [] ++ [p])
      else c.repeated.get? other := by
  unfold add
  split
  next hname =>
    rw [addRepeated, Dictionary.get?_set]
    by_cases heq : name = other
    · simp [← heq, hname]
    · simp [heq]
  next hname => simp [set, hname]

end Component

namespace Outline

/-- An outline with nothing in it. -/
def ofKind (kind : String) : Outline := ⟨kind, [], []⟩

/-- Adds a line behind the others. -/
def addLine (o : Outline) (line : Line) : Outline := { o with lines := o.lines ++ [line] }

/-- Adds an outline inside, behind the others. -/
def addInner (o inside : Outline) : Outline := { o with inner := o.inner ++ [inside] }

mutual

/-- The component that the lines make. -/
def component : Outline → Component
  | ⟨kind, lines, inner⟩ =>
    { (Component.ofKind kind).addLines (lines.map Line.entry) with children := components inner }

/-- The components of outlines. -/
def components : List Outline → List Component
  | [] => []
  | o :: os => component o :: components os

end

theorem components_eq_map (os : List Outline) : components os = os.map component := by
  induction os with
  | nil => simp only [components, List.map_nil]
  | cons o os ih => simp only [components, ih, List.map_cons]

/-! ## What the component holds -/

theorem component_eq (o : Outline) :
    o.component = { (Component.ofKind o.kind).addLines (o.lines.map Line.entry) with
      children := o.inner.map component } := by
  obtain ⟨kind, lines, inner⟩ := o
  rw [component, components_eq_map]

@[simp] theorem component_kind (o : Outline) : o.component.kind = o.kind := by
  rw [component_eq]
  exact (addLines_frame _ _).1

theorem component_children (o : Outline) : o.component.children = o.inner.map component := by
  rw [component_eq]

@[simp] theorem component_ofKind (kind : String) : (ofKind kind).component = .ofKind kind := by
  simp [component_eq, ofKind, Component.addLines, Component.ofKind]

theorem add_withChildren (c : Component) (children : List Component) (name : String)
    (p : Property) : ({ c with children := children } : Component).add name p =
      { c.add name p with children := children } := by
  unfold Component.add
  split <;> rfl

theorem component_addLine (o : Outline) (line : Line) :
    (o.addLine line).component =
      o.component.add (String.ofList line.name) line.property := by
  rw [component_eq, component_eq, add_withChildren, addLine, List.map_append, Component.addLines,
    List.foldl_append]
  rfl

theorem component_addInner (o inside : Outline) :
    (o.addInner inside).component = o.component.addChild inside.component := by
  rw [component_eq, component_eq o, Component.addChild, addInner, List.map_append]
  rfl

/-- The names of the lines. -/
def names (o : Outline) : List String := o.lines.map fun line => String.ofList line.name

/-- The lines of this name. -/
def named (o : Outline) (name : String) : List Line :=
  o.lines.filter fun line => String.ofList line.name = name

theorem named_ne_nil_iff (o : Outline) (name : String) : o.named name ≠ [] ↔ name ∈ o.names := by
  simp [named, names]

theorem named_addLine (o : Outline) (line : Line) (name : String) :
    (o.addLine line).named name =
      o.named name ++ if String.ofList line.name = name then [line] else [] := by
  simp [named, addLine, List.filter_append, List.filter_cons]

/-- A name that is not repeatable has the property of its last line. -/
theorem get?_single (o : Outline) (name : String) :
    o.component.single.get? name =
      if name ∈ repeatableNames then none else ((o.named name).map Line.property).getLast? := by
  obtain ⟨kind, lines, inner⟩ := o
  induction lines using List.reverseRecOn with
  | nil => simp [component_eq, named, Component.addLines, Component.ofKind]
  | append_singleton lines line ih =>
      have hsnoc : (⟨kind, lines ++ [line], inner⟩ : Outline) = addLine ⟨kind, lines, inner⟩ line :=
        rfl
      rw [hsnoc, component_addLine, named_addLine, Component.get?_single_add, ih]
      by_cases heq : String.ofList line.name = name
      · by_cases hname : name ∈ repeatableNames <;> simp [heq, hname]
      · simp [heq]

/-- A repeatable name has the properties of all its lines, in order. -/
theorem get?_repeated (o : Outline) (name : String) :
    o.component.repeated.get? name =
      if name ∈ repeatableNames ∧ o.named name ≠ [] then
        some ((o.named name).map Line.property)
      else none := by
  obtain ⟨kind, lines, inner⟩ := o
  induction lines using List.reverseRecOn with
  | nil => simp [component_eq, named, Component.addLines, Component.ofKind]
  | append_singleton lines line ih =>
      have hsnoc : (⟨kind, lines ++ [line], inner⟩ : Outline) = addLine ⟨kind, lines, inner⟩ line :=
        rfl
      rw [hsnoc, component_addLine, named_addLine, Component.get?_repeated_add, ih]
      by_cases heq : String.ofList line.name = name
      · by_cases hname : name ∈ repeatableNames
        · by_cases hnone : (⟨kind, lines, inner⟩ : Outline).named name = [] <;>
            simp [heq, hname, hnone]
        · simp [heq, hname]
      · simp [heq]

end Outline

/-! ## Reading outlines -/

/-- Reads the rest of the outline `here`, which lies in the outlines `outer`, innermost first, up to
the end of the outermost one. -/
def outlineOpen (here : Outline) (outer : List Outline) (text : List Char) :
    Option (Outline × List Char) :=
  match h : closing? here.kind.toList (skipLineEnds text) with
  | some rest =>
    have := length_rest_lt (length_lt_of_closing? h)
    match outer with
    | [] => some (here, rest)
    | parent :: outer => outlineOpen (parent.addInner here) outer rest
  | none =>
    match h : opening? (skipLineEnds text) with
    | some (kind, rest) =>
      have := length_rest_lt (length_lt_of_opening? h)
      outlineOpen (.ofKind (String.ofList kind)) (here :: outer) rest
    | none =>
      match h : line? (skipLineEnds text) with
      | some (line, rest) =>
        have := length_rest_lt (length_lt_of_line? h)
        outlineOpen (here.addLine line) outer rest
      | none => none
termination_by text.length

/-- The outline of the one component that an unfolded text consists of. -/
def outline? (s : List Char) : Option Outline := do
  let (kind, rest) ← opening? (skipLineEnds s)
  let (outline, rest) ← outlineOpen (.ofKind (String.ofList kind)) [] rest
  if (skipLineEnds rest).isEmpty then some outline else none

/-- The outlines of the events of a calendar. -/
def Outline.events (o : Outline) : List Outline :=
  if o.kind = calendarKind then o.inner.filter (·.kind = eventKind) else []

/-- The outlines of the events of a body. -/
def eventOutlines? (body : String) : Except ReadError (List Outline) :=
  match Text.dropPrefix? "BEGIN:VCALENDAR".toList (Text.trimStart body.toList) with
  | none => .error .notCalendar
  | some _ =>
    match outline? (unfold body.toList) with
    | some calendar => .ok calendar.events
    | none => .error .malformed

/-- In each of its steps the reader keeps the component of what is outlined. -/
theorem readOpen_component (here : Outline) (outer : List Outline) (text : List Char) :
    readOpen here.component (outer.map Outline.component) text =
      (outlineOpen here outer text).map fun r => (r.1.component, r.2) := by
  fun_induction outlineOpen here outer text with
  | case1 here text rest hclosing _ =>
      exact readOpen_end (by rwa [Outline.component_kind])
  | case2 here text rest hclosing _ parent outer ih =>
      rw [List.map_cons, readOpen_closing (by rwa [Outline.component_kind]), ← ih,
        Outline.component_addInner]
  | case3 here outer text hclosing kind rest hopening _ ih =>
      rw [readOpen_opening (by rwa [Outline.component_kind]) hopening, ← ih,
        Outline.component_ofKind, List.map_cons]
  | case4 here outer text hclosing hopening line rest hline _ ih =>
      rw [readOpen_line (by rwa [Outline.component_kind]) hopening hline, ← ih,
        Outline.component_addLine]
  | case5 here outer text hclosing hopening hline =>
      exact readOpen_stuck (by rwa [Outline.component_kind]) hopening hline

theorem component?_eq (s : List Char) : component? s = (outline? s).map Outline.component := by
  unfold component? outline?
  cases opening? (skipLineEnds s) with
  | none => rfl
  | some r =>
      have hopen := readOpen_component (.ofKind (String.ofList r.1)) [] r.2
      rw [Outline.component_ofKind, List.map_nil] at hopen
      simp only [Option.bind_eq_bind, Option.bind_some, hopen]
      cases outlineOpen (.ofKind (String.ofList r.1)) [] r.2 with
      | none => rfl
      | some whole =>
          simp only [Option.map_some, Option.bind_some]
          split <;> rfl

theorem Outline.events_component (o : Outline) :
    o.component.events = o.events.map Outline.component := by
  unfold Component.events Outline.events
  rw [component_kind, component_children, List.filter_map]
  split
  next => simp only [Function.comp_def, component_kind]
  next => rfl

/-- The events of a body are the components of their outlines. -/
theorem events?_eq (body : String) :
    events? body = (eventOutlines? body).map (List.map Outline.component) := by
  unfold events? eventOutlines?
  cases Text.dropPrefix? "BEGIN:VCALENDAR".toList (Text.trimStart body.toList) with
  | none => rfl
  | some _ =>
      rw [component?_eq]
      cases outline? (unfold body.toList) with
      | none => rfl
      | some calendar => exact congrArg Except.ok calendar.events_component

end Almanac.Calendar
