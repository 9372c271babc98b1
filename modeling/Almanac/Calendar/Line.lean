import Almanac.Calendar.Component
import Almanac.Calendar.ValueType
import Almanac.Calendar.Escape
import Almanac.Text.Alphanumeric
import Almanac.Text.Blank

/-!
# Property lines

A property line has a name, parameters behind semicolons, and a value behind a
colon. This module reads one such line from the start of a text and says what is
left of the text; each reader is shown to leave less than it was given.
-/

namespace Almanac.Calendar

/-- A character of a component, property or parameter name. -/
def isNameChar (c : Char) : Bool :=
  c == '.' || c == ',' || c == '/' || c == '_' || c == '-' || Text.isAlphanumeric c

/-- The name at the start of a text, which may be empty. -/
def nameOf (s : List Char) : List Char := s.takeWhile isNameChar

/-- What follows the name at the start of a text. -/
def afterName (s : List Char) : List Char := s.dropWhile isNameChar

theorem length_dropWhile_le {α : Type} (p : α → Bool) (s : List α) :
    (s.dropWhile p).length ≤ s.length := by
  induction s with
  | nil => simp
  | cons a s ih =>
    simp only [List.dropWhile_cons]
    split
    · exact Nat.le_succ_of_le ih
    · exact Nat.le_refl _

theorem length_afterName_le (s : List Char) : (afterName s).length ≤ s.length :=
  length_dropWhile_le _ s

/-- A quotation mark. -/
def quoteMark : Char := '"'

/-- A text in quotation marks at the start, not empty, and what follows it. -/
def quoted? : List Char → Option (List Char × List Char)
  | [] => none
  | c :: s =>
    if c = quoteMark then
      match s.takeWhile (· != quoteMark), s.dropWhile (· != quoteMark) with
      | d :: text, _ :: rest => some (d :: text, rest)
      | _, _ => none
    else none

theorem length_lt_of_quoted? {s text rest : List Char} (h : quoted? s = some (text, rest)) :
    rest.length < s.length := by
  cases s with
  | nil => simp [quoted?] at h
  | cons c s =>
    simp only [quoted?] at h
    split at h
    · split at h
      next _ _ _ _ _ tail hd =>
        have hle := length_dropWhile_le (· != quoteMark) s
        rw [hd] at hle
        simp only [Option.some.injEq, Prod.mk.injEq] at h
        obtain ⟨-, rfl⟩ := h
        simp only [List.length_cons] at hle ⊢
        omega
      · simp at h
    · simp at h

/-- The quoted texts that follow, each behind a comma, as they are written, and the rest. -/
def moreQuoted (s : List Char) : List Char × List Char :=
  match s with
  | ',' :: t =>
    match h : quoted? t with
    | some (text, rest) =>
      have : rest.length < t.length := length_lt_of_quoted? h
      let more := moreQuoted rest
      (',' :: quoteMark :: text ++ quoteMark :: more.1, more.2)
    | none => ([], s)
  | _ => ([], s)
termination_by s.length
decreasing_by simp only [List.length_cons]; omega

theorem length_moreQuoted_le (s : List Char) : (moreQuoted s).2.length ≤ s.length := by
  fun_induction moreQuoted s with
  | case1 t text rest h _ more ih =>
    have := length_lt_of_quoted? h
    simp only [List.length_cons] at ih ⊢
    simp only [more]
    omega
  | case2 => simp
  | case3 => simp

/-- The value of a parameter: a quoted text, a list of quoted texts that keeps its marks, or
everything up to a semicolon or colon. -/
def parameterValue (s : List Char) : List Char × List Char :=
  match quoted? s with
  | some (text, rest) =>
    match moreQuoted rest with
    | ([], rest) => (text, rest)
    | (more, rest) => (quoteMark :: text ++ quoteMark :: more, rest)
  | none => (s.takeWhile (fun c => c != ';' && c != ':'),
      s.dropWhile (fun c => c != ';' && c != ':'))

theorem length_parameterValue_le (s : List Char) : (parameterValue s).2.length ≤ s.length := by
  unfold parameterValue
  split
  next text rest h =>
    have hq := length_lt_of_quoted? h
    have hm := length_moreQuoted_le rest
    split
    next tail hm' =>
      rw [hm'] at hm
      exact Nat.le_of_lt (Nat.lt_of_le_of_lt hm hq)
    next more tail _ hm' =>
      rw [hm'] at hm
      exact Nat.le_of_lt (Nat.lt_of_le_of_lt hm hq)
  next => exact length_dropWhile_le _ s

/-- A parameter without its semicolon: a name and a value, which is empty if there is none. -/
def parameter (s : List Char) : (List Char × List Char) × List Char :=
  let s := s.dropWhile (fun c => c == ' ' || c == '\t')
  match afterName s with
  | '=' :: rest =>
    let value := parameterValue rest
    ((nameOf s, value.1), value.2)
  | rest => ((nameOf s, []), rest)

theorem length_parameter_le (s : List Char) : (parameter s).2.length ≤ s.length := by
  unfold parameter
  have hd := length_dropWhile_le (fun c => c == ' ' || c == '\t') s
  have hn := length_afterName_le (s.dropWhile (fun c => c == ' ' || c == '\t'))
  dsimp only
  split
  next rest h =>
    rw [h] at hn
    have hv := length_parameterValue_le rest
    simp only [List.length_cons] at hn
    simp only
    omega
  next => simp only; omega

/-- The parameters at the start of a text, each behind a semicolon, and what follows them. -/
def parameters (s : List Char) : List (List Char × List Char) × List Char :=
  match s with
  | ';' :: t =>
    let more := parameters (parameter t).2
    ((parameter t).1 :: more.1, more.2)
  | _ => ([], s)
termination_by s.length
decreasing_by
  have := length_parameter_le t
  simp only [List.length_cons]
  omega

theorem length_parameters_le (s : List Char) : (parameters s).2.length ≤ s.length := by
  fun_induction parameters s with
  | case1 t more ih =>
    have := length_parameter_le t
    simp only [more, List.length_cons] at ih ⊢
    omega
  | case2 => simp

/-- The text before the first occurrence of `mark` and the text after it. -/
def cutAt? (mark : List Char) : List Char → Option (List Char × List Char)
  | [] => none
  | c :: s =>
    if mark.isPrefixOf (c :: s) then some ([], (c :: s).drop mark.length)
    else (cutAt? mark s).map fun r => (c :: r.1, r.2)

theorem length_le_of_cutAt? {mark s before rest : List Char}
    (h : cutAt? mark s = some (before, rest)) : rest.length ≤ s.length := by
  induction s generalizing before rest with
  | nil => simp [cutAt?] at h
  | cons c s ih =>
    simp only [cutAt?] at h
    split at h
    · simp only [Option.some.injEq, Prod.mk.injEq] at h
      rw [← h.2, List.length_drop]
      omega
    · obtain ⟨⟨b, t⟩, hr, he⟩ := Option.map_eq_some_iff.1 h
      simp only [Prod.mk.injEq] at he
      have := ih hr
      rw [← he.2, List.length_cons]
      omega

/-- The value at the start of a text, up to a line end, and what follows the line end. A carriage
return with a line feed ends the line if there is one anywhere in the text; otherwise a line feed
alone does. -/
def lineValue (s : List Char) : List Char × List Char :=
  ((cutAt? ['\r', '\n'] s).or (cutAt? ['\n'] s)).getD (s, [])

theorem length_lineValue_le (s : List Char) : (lineValue s).2.length ≤ s.length := by
  unfold lineValue
  cases h : (cutAt? ['\r', '\n'] s).or (cutAt? ['\n'] s) with
  | none => simp
  | some r =>
    rcases Option.or_eq_some_iff.1 h with h | ⟨-, h⟩ <;> exact length_le_of_cutAt? h

/-- The names that begin and end components. They are no property names where a property could
go on. -/
def isFrameName (name rest : List Char) : Bool :=
  (name.map Char.toUpper == "BEGIN".toList || name.map Char.toUpper == "END".toList) &&
    match rest with
    | [] => true
    | c :: _ => c == ':' || c == ';'

/-- A property as it is written: its name, its parameters in order, and its value before anything
is unescaped. -/
structure Line where
  name : List Char
  params : List (List Char × List Char)
  value : List Char

/-- A line with a colon. Blanks and line ends before the name do not count. -/
def fullLine? (s : List Char) : Option (Line × List Char) :=
  let s := s.dropWhile (fun c => c == ' ' || c == '\t' || c == '\r' || c == '\n')
  if isFrameName (nameOf s) (afterName s) then none
  else
    match (parameters (afterName s)).2 with
    | ':' :: t =>
      some (⟨nameOf s, (parameters (afterName s)).1, (lineValue t).1⟩, (lineValue t).2)
    | _ => none

theorem length_lt_of_fullLine? {s rest : List Char} {line : Line}
    (h : fullLine? s = some (line, rest)) : rest.length < s.length := by
  unfold fullLine? at h
  have hd := length_dropWhile_le (fun c => c == ' ' || c == '\t' || c == '\r' || c == '\n') s
  have hn := length_afterName_le
    (s.dropWhile (fun c => c == ' ' || c == '\t' || c == '\r' || c == '\n'))
  have hp := length_parameters_le
    (afterName (s.dropWhile (fun c => c == ' ' || c == '\t' || c == '\r' || c == '\n')))
  simp only at h
  split at h
  · simp at h
  · split at h
    next t ht =>
      rw [ht] at hp
      have hv := length_lineValue_le t
      simp only [Option.some.injEq, Prod.mk.injEq] at h
      rw [← h.2]
      simp only [List.length_cons] at hp
      omega
    · simp at h

/-- A name alone, with an empty value. Nothing has to follow it. -/
def bareLine? (s : List Char) : Option (Line × List Char) :=
  if (nameOf s).isEmpty || isFrameName (nameOf s) (afterName s) then none
  else some (⟨nameOf s, [], []⟩, afterName s)

theorem length_lt_of_bareLine? {s rest : List Char} {line : Line}
    (h : bareLine? s = some (line, rest)) : rest.length < s.length := by
  unfold bareLine? at h
  split at h
  · simp at h
  next hne =>
    simp only [Bool.or_eq_true, not_or] at hne
    simp only [Option.some.injEq, Prod.mk.injEq] at h
    rw [← h.2]
    cases s with
    | nil => simp [nameOf] at hne
    | cons c s =>
      have hle := length_dropWhile_le isNameChar s
      by_cases hc : isNameChar c
      · simp only [afterName, List.dropWhile_cons, hc, if_true, List.length_cons]
        omega
      · simp [nameOf, hc] at hne

/-- The property line at the start of a text and what follows it. -/
def line? (s : List Char) : Option (Line × List Char) := (fullLine? s).or (bareLine? s)

theorem length_lt_of_line? {s rest : List Char} {line : Line}
    (h : line? s = some (line, rest)) : rest.length < s.length := by
  rcases Option.or_eq_some_iff.1 h with h | ⟨-, h⟩
  · exact length_lt_of_fullLine? h
  · exact length_lt_of_bareLine? h

/-- The property that a line stands for. Of parameters with one name the last is kept. The first
`VALUE` parameter decides whether the value is unescaped. -/
def Line.property (line : Line) : Property :=
  let params := line.params.map fun p => (String.ofList p.1, String.ofList p.2)
  let type? := (params.find? fun p => p.1 == "VALUE").map Prod.snd
  let value :=
    if ValueType.isEscaped (String.ofList line.name) type? then unescape line.value
    else line.value
  ⟨Dictionary.ofList params, String.ofList value⟩

end Almanac.Calendar
