import Almanac.Calendar.Line
import Almanac.Calendar.Fold
import Almanac.Text.Affix

/-!
# Reading a calendar

A calendar text is one component that begins and ends with its kind, with
property lines and further components in between. A body is read whole or not at
all: `events?` gives the events of the calendar in the order of the text, or the
reason for which the body is no calendar.
-/

namespace Almanac.Calendar

/-- Why a body gives no events. -/
inductive ReadError where
  /-- The body does not begin as a calendar does. -/
  | notCalendar
  /-- The body begins as a calendar and breaks the rules later. -/
  | malformed
deriving DecidableEq

/-- The wording of a reason. -/
def ReadError.message : ReadError → String
  | .notCalendar => "body is not a VCALENDAR"
  | .malformed => "error: unexpected text"

/-- Drops line ends of either kind. -/
def skipLineEnds : List Char → List Char
  | '\n' :: s => skipLineEnds s
  | '\r' :: '\n' :: s => skipLineEnds s
  | s => s

theorem length_skipLineEnds_le (s : List Char) : (skipLineEnds s).length ≤ s.length := by
  fun_induction skipLineEnds s with
  | case1 s ih => simp only [List.length_cons]; omega
  | case2 s ih => simp only [List.length_cons]; omega
  | case3 => simp

/-- What follows the word, which is written in letters of either case, at the start of a text.
`word` is given in capitals. -/
def afterWord? : (word s : List Char) → Option (List Char)
  | [], s => some s
  | _ :: _, [] => none
  | a :: word, c :: s => if c.toUpper = a then afterWord? word s else none

theorem length_of_afterWord? {word s rest : List Char} (h : afterWord? word s = some rest) :
    rest.length + word.length = s.length := by
  induction word generalizing s with
  | nil => simp only [afterWord?, Option.some.injEq] at h; simp [h]
  | cons a word ih =>
    cases s with
    | nil => simp [afterWord?] at h
    | cons c s =>
      simp only [afterWord?] at h
      split at h
      · have := ih h
        simp only [List.length_cons]
        omega
      · simp at h

/-- The beginning of a component: its kind and what follows. -/
def opening? (s : List Char) : Option (List Char × List Char) :=
  (afterWord? "BEGIN:".toList s).map fun rest => (nameOf rest, afterName rest)

/-- The end of a component of this kind: what follows the kind, which may be on the same line. -/
def closing? (kind : List Char) (s : List Char) : Option (List Char) :=
  (afterWord? "END:".toList s).bind (Text.dropPrefix? kind)

theorem length_lt_of_opening? {s kind rest : List Char} (h : opening? s = some (kind, rest)) :
    rest.length < s.length := by
  obtain ⟨t, ht, he⟩ := Option.map_eq_some_iff.1 h
  have hw := length_of_afterWord? ht
  have hn := length_afterName_le t
  simp only [Prod.mk.injEq] at he
  rw [← he.2]
  have : ("BEGIN:".toList).length = 6 := rfl
  omega

theorem length_lt_of_closing? {kind s rest : List Char} (h : closing? kind s = some rest) :
    rest.length < s.length := by
  obtain ⟨t, ht, hp⟩ := Option.bind_eq_some_iff.1 h
  have hw := length_of_afterWord? ht
  have hk := congrArg List.length (Text.dropPrefix?_eq_some_iff.1 hp)
  have : ("END:".toList).length = 4 := rfl
  simp only [List.length_append] at hk
  omega

theorem length_rest_lt {text rest : List Char} (h : rest.length < (skipLineEnds text).length) :
    rest.length < text.length :=
  Nat.lt_of_lt_of_le h (length_skipLineEnds_le text)

/-- Reads the rest of the component `here`, which lies in the components `outer`, innermost
first, up to the end of the outermost one. -/
def readOpen (here : Component) (outer : List Component) (text : List Char) :
    Option (Component × List Char) :=
  match h : closing? here.kind.toList (skipLineEnds text) with
  | some rest =>
    have := length_rest_lt (length_lt_of_closing? h)
    match outer with
    | [] => some (here, rest)
    | parent :: outer => readOpen (parent.addChild here) outer rest
  | none =>
    match h : opening? (skipLineEnds text) with
    | some (kind, rest) =>
      have := length_rest_lt (length_lt_of_opening? h)
      readOpen (.ofKind (String.ofList kind)) (here :: outer) rest
    | none =>
      match h : line? (skipLineEnds text) with
      | some (line, rest) =>
        have := length_rest_lt (length_lt_of_line? h)
        readOpen (here.add (String.ofList line.name) line.property) outer rest
      | none => none
termination_by text.length

/-- The one component that an unfolded text consists of. -/
def component? (s : List Char) : Option Component := do
  let (kind, rest) ← opening? (skipLineEnds s)
  let (component, rest) ← readOpen (.ofKind (String.ofList kind)) [] rest
  if (skipLineEnds rest).isEmpty then some component else none

/-- The events of a calendar: the components directly inside it that are events. -/
def Component.events (c : Component) : List Component :=
  if c.kind = calendarKind then c.children.filter (·.kind = eventKind) else []

/-- The events of a body in the order of its text. -/
def events? (body : String) : Except ReadError (List Component) :=
  match Text.dropPrefix? "BEGIN:VCALENDAR".toList (Text.trimStart body.toList) with
  | none => .error .notCalendar
  | some _ =>
    match component? (unfold body.toList) with
    | some calendar => .ok calendar.events
    | none => .error .malformed

end Almanac.Calendar
