import Almanac.Calendar.Reader
import Almanac.Proofs.Calendar.Folding
import Almanac.Proofs.Calendar.Parameters
import Almanac.Proofs.Dictionary
import Almanac.Proofs.Text.Capitals

/-!
# Property lines that are read back

A property line, written and unfolded, is read as the property that it was written
from. Its value ends at the first line end, so a value that is not escaped must have
none inside; escaped values never have one.
-/

namespace Almanac.Calendar

/-- The text has no line end in it. -/
abbrev IsOneLine (s : List Char) : Prop := s.IsChain fun c d => c = '\r' → d ≠ '\n'

/-! ## Values -/

theorem newline_not_mem_escape (s : List Char) : '\n' ∉ escape s := by
  fun_induction escape s with
  | case1 => simp
  | case2 s ih => simp [ih]
  | case3 s ih => simp [ih]
  | case4 s ih => simp [ih]
  | case5 s ih => simp [ih]
  | case6 c s _ _ _ hnewline ih =>
      have hc : '\n' ≠ c := fun heq => hnewline heq.symm
      simp [ih, hc]

theorem isUnbroken_of_not_mem {s : List Char} (hs : '\n' ∉ s) : IsUnbroken s := by
  induction s with
  | nil => exact .nil
  | cons c s ih =>
      rw [List.mem_cons, not_or] at hs
      exact (ih hs.2).cons fun d _ hc => absurd hc.symm hs.1

theorem isOneLine_of_not_mem {s : List Char} (hs : '\n' ∉ s) : IsOneLine s := by
  induction s with
  | nil => exact .nil
  | cons c s ih =>
      rw [List.mem_cons, not_or] at hs
      refine (ih hs.2).cons fun d hd _ heq => hs.2 ?_
      rw [← heq]
      exact List.mem_of_head? hd

/-- A value ends at the first line end. -/
theorem cutAt?_lineEnd {s : List Char} (hs : IsOneLine s) (rest : List Char) :
    cutAt? ['\r', '\n'] (s ++ '\r' :: '\n' :: rest) = some (s, rest) := by
  induction s with
  | nil => rfl
  | cons c s ih =>
      -- A line end found here would be one of the text, or share its line feed with the real one.
      have hbeginning : ['\r', '\n'].isPrefixOf (c :: (s ++ '\r' :: '\n' :: rest)) = false := by
        rw [← Bool.not_eq_true, List.isPrefixOf_iff_prefix]
        rintro ⟨t, ht⟩
        obtain ⟨rfl, htail⟩ := List.cons.inj ht
        cases s with
        | nil => exact absurd (List.cons.inj htail).1 (by decide)
        | cons d s => exact (List.isChain_cons_cons.mp hs).1 rfl (List.cons.inj htail).1.symm
      rw [List.cons_append, cutAt?, hbeginning, if_neg Bool.false_ne_true, ih hs.tail]
      rfl

theorem lineValue_lineEnd {s : List Char} (hs : IsOneLine s) (rest : List Char) :
    lineValue (s ++ '\r' :: '\n' :: rest) = (s, rest) := by
  rw [lineValue, cutAt?_lineEnd hs]
  rfl

/-! ## Properties -/

/-- The name begins or ends components. -/
def IsFrame (name : String) : Prop :=
  name.toList.map Char.toUpper = "BEGIN".toList ∨ name.toList.map Char.toUpper = "END".toList

instance (name : String) : Decidable (IsFrame name) := inferInstanceAs (Decidable (_ ∨ _))

/-- A property as it can be read. -/
structure IsProperty (name : String) (p : Property) : Prop where
  name : IsName name.toList
  params : ∀ q ∈ p.params.entries, IsParameter q.1.toList q.2.toList

/-- A property that is written so that it is read back. Values that are not escaped have to fit into
their line as they are. -/
structure WritableProperty (name : String) (p : Property) : Prop where
  frame : ¬IsFrame name
  params : ∀ q ∈ p.params.entries, WritableValue q.2.toList ∧ IsUnbroken q.2.toList
  value : ValueType.isEscaped name (p.params.get? "VALUE") = false →
    IsUnbroken p.value.toList ∧ IsOneLine p.value.toList

theorem writableProperty_iff (name : String) (p : Property) :
    WritableProperty name p ↔ ¬IsFrame name ∧
      (∀ q ∈ p.params.entries, WritableValue q.2.toList ∧ IsUnbroken q.2.toList) ∧
      (ValueType.isEscaped name (p.params.get? "VALUE") = false →
        IsUnbroken p.value.toList ∧ IsOneLine p.value.toList) :=
  ⟨fun h => ⟨h.frame, h.params, h.value⟩, fun h => ⟨h.1, h.2.1, h.2.2⟩⟩

instance (name : String) (p : Property) : Decidable (WritableProperty name p) :=
  decidable_of_iff' _ (writableProperty_iff name p)

/-- The line of a property, not folded and without its end. -/
def writtenLine (name : String) (p : Property) : List Char :=
  name.toList ++ writtenParameters p.params.entries ++ ':' :: writeValue name p

theorem writeValue_fits {name : String} {p : Property} (hw : WritableProperty name p) :
    IsUnbroken (writeValue name p) ∧ IsOneLine (writeValue name p) := by
  unfold writeValue
  split
  next => exact ⟨isUnbroken_of_not_mem (newline_not_mem_escape _),
    isOneLine_of_not_mem (newline_not_mem_escape _)⟩
  next hraw => exact hw.value (by simpa using hraw)

theorem isFrameName_eq_false {name : String} (hname : ¬IsFrame name) (rest : List Char) :
    isFrameName name.toList rest = false := by
  obtain ⟨hbegin, hend⟩ := not_or.mp hname
  simp only [isFrameName, Bool.and_eq_false_imp, Bool.or_eq_true, beq_iff_eq]
  rintro (h | h)
  · exact absurd h hbegin
  · exact absurd h hend

/-- A line with this name, these parameters and this value, without its end. -/
def lineText (name : List Char) (params : List (String × String)) (v : List Char) : List Char :=
  name ++ writtenParameters params ++ ':' :: v

/-- A line is read up to its end if its value has no line end inside. -/
theorem line?_lineText {name : String} (hname : IsName name.toList) (hframe : ¬IsFrame name)
    {params : List (String × String)}
    (hparams : ∀ q ∈ params, IsParameter q.1.toList q.2.toList ∧ WritableValue q.2.toList)
    {v : List Char} (hv : IsOneLine v) (rest : List Char) :
    line? (lineText name.toList params v ++ lineEnd ++ rest) =
      some (⟨name.toList, params.map fun q => (q.1.toList, q.2.toList), v⟩, rest) := by
  have hshape : lineText name.toList params v ++ lineEnd ++ rest =
      name.toList ++ (writtenParameters params ++ ':' :: (v ++ '\r' :: '\n' :: rest)) := by
    simp [lineText, lineEnd]
  have hwritten := parameters_written params hparams (v ++ '\r' :: '\n' :: rest)
  obtain ⟨stop, t, hstop, ht⟩ := writtenParameters_stop params (v ++ '\r' :: '\n' :: rest)
  rw [ht] at hwritten
  have hstopName : isNameChar stop = false := by rcases hstop with rfl | rfl <;> decide
  have hblank : ∀ c, isNameChar c = true →
      (c == ' ' || c == '\t' || c == '\r' || c == '\n') = false := by
    intro c hc
    simp only [Bool.or_eq_false_iff, beq_eq_false_iff_ne]
    refine ⟨⟨⟨?_, ?_⟩, ?_⟩, ?_⟩ <;> rintro rfl <;> exact absurd hc (by decide)
  have hstopBlank : (stop == ' ' || stop == '\t' || stop == '\r' || stop == '\n') = false := by
    rcases hstop with rfl | rfl <;> decide
  have hstart := dropWhile_name hname hblank hstopBlank t
  rw [line?, hshape, ht, fullLine?]
  simp only [hstart, nameOf_append hname hstopName, afterName_append hname hstopName,
    isFrameName_eq_false hframe, hwritten, lineValue_lineEnd hv]
  rfl

/-- The line of a property as it is read. -/
def lineOf (name : String) (p : Property) : Line :=
  ⟨name.toList, p.params.entries.map fun q => (q.1.toList, q.2.toList), writeValue name p⟩

/-- The line stands for the property that it was written from. -/
theorem property_lineOf (name : String) (p : Property) : (lineOf name p).property = p := by
  have hparams : (lineOf name p).params.map (fun q => (String.ofList q.1, String.ofList q.2)) =
      p.params.entries := by
    simp [lineOf, Function.comp_def]
  have htype : (p.params.entries.find? fun q => q.1 == "VALUE").map Prod.snd =
      p.params.get? "VALUE" := rfl
  have hvalue : (if ValueType.isEscaped name (p.params.get? "VALUE") then
      unescape (writeValue name p) else writeValue name p) = p.value.toList := by
    unfold writeValue
    split
    next => exact unescape_escape _
    next => rfl
  simp only [Line.property, hparams, htype, Dictionary.ofList_entries]
  simp only [lineOf, String.ofList_toList, hvalue]

/-! ## Whole lines -/

theorem isUnbroken_append {s t : List Char} (hs : IsUnbroken s) (ht : IsUnbroken t)
    (hhead : ∀ c ∈ t.head?, c ≠ ' ' ∧ c ≠ '\t') : IsUnbroken (s ++ t) :=
  hs.append ht fun _ _ d hd _ => hhead d hd

theorem isUnbroken_cons {c : Char} (hc : c ≠ '\n') {s : List Char} (hs : IsUnbroken s) :
    IsUnbroken (c :: s) :=
  hs.cons fun _ _ heq => absurd heq hc

theorem IsName.newline_not_mem {name : List Char} (hname : IsName name) : '\n' ∉ name :=
  fun hmem => absurd (hname _ hmem) (by decide)

theorem isUnbroken_writtenValue {v : List Char} (hv : IsUnbroken v) :
    IsUnbroken (writtenValue v) := by
  unfold writtenValue
  split
  next => exact isUnbroken_append (isUnbroken_cons (by decide) hv) (.singleton _) (by simp)
  next => exact hv

theorem isUnbroken_writtenParameters (params : List (String × String))
    (hparams : ∀ q ∈ params, IsName q.1.toList ∧ IsUnbroken q.2.toList) :
    IsUnbroken (writtenParameters params) := by
  induction params with
  | nil => exact .nil
  | cons q params ih =>
      obtain ⟨hname, hvalue⟩ := hparams q List.mem_cons_self
      have hrest := ih fun other hother => hparams other (List.mem_cons_of_mem _ hother)
      have hassigned := isUnbroken_cons (c := '=') (by decide) (isUnbroken_writtenValue hvalue)
      have hfirst := isUnbroken_cons (c := ';') (by decide)
        (isUnbroken_append (isUnbroken_of_not_mem hname.newline_not_mem) hassigned (by simp))
      rw [writtenParameters_cons]
      refine isUnbroken_append hfirst hrest fun c hc => ?_
      cases params with
      | nil => cases hc
      | cons other params =>
          obtain rfl : ';' = c := Option.some.inj hc
          decide

/-- A written line can be folded and unfolded. -/
theorem isUnbroken_writtenLine {name : String} {p : Property} (hp : IsProperty name p)
    (hw : WritableProperty name p) : IsUnbroken (writtenLine name p ++ lineEnd) := by
  have hname := isUnbroken_of_not_mem hp.name.newline_not_mem
  have hparams := isUnbroken_writtenParameters p.params.entries fun q hq =>
    ⟨(hp.params q hq).name, (hw.params q hq).2⟩
  have hvalue := isUnbroken_cons (c := ':') (by decide) (writeValue_fits hw).1
  have hend : IsUnbroken lineEnd := by decide
  have hhead : ∀ c ∈ (writtenParameters p.params.entries).head?, c ≠ ' ' ∧ c ≠ '\t' := by
    intro c hc
    cases hentries : p.params.entries with
    | nil => simp [hentries, writtenParameters] at hc
    | cons q params =>
        rw [hentries] at hc
        obtain rfl : ';' = c := Option.some.inj hc
        decide
  exact isUnbroken_append (isUnbroken_append (isUnbroken_append hname hparams hhead) hvalue
    (by simp)) hend (by simp [lineEnd])

/-- A line begins with its name, or behind it. -/
theorem exists_lineText_eq (name : List Char) (params : List (String × String))
    (v rest : List Char) :
    ∃ stop t, (stop = ';' ∨ stop = ':') ∧
      lineText name params v ++ lineEnd ++ rest = name ++ stop :: t := by
  obtain ⟨stop, t, hstop, ht⟩ := writtenParameters_stop params (v ++ (lineEnd ++ rest))
  refine ⟨stop, t, hstop, ?_⟩
  rw [← ht]
  simp [lineText]

theorem toUpper_ne_colon {c : Char} (hc : isNameChar c = true) : c.toUpper ≠ ':' := by
  rcases Text.toUpper_cases c with ⟨hlow, hhigh, hupper⟩ | ⟨_, hsame⟩
  · intro hcolon
    rw [hcolon, show ':'.toNat = 58 from rfl] at hupper
    omega
  · rw [hsame]
    rintro rfl
    exact absurd hc (by decide)

/-- A name that is not the word is not taken for it. -/
theorem afterWord?_name {word name : List Char} (hword : ';' ∉ word ∧ ':' ∉ word)
    (hname : IsName name) (hne : name.map Char.toUpper ≠ word) {stop : Char}
    (hstop : stop = ';' ∨ stop = ':') (rest : List Char) :
    afterWord? (word ++ [':']) (name ++ stop :: rest) = none := by
  -- The name may be shorter than the word, longer, or differ in a letter.
  induction word generalizing name with
  | nil =>
      cases name with
      | nil => exact absurd rfl hne
      | cons c name =>
          simp [afterWord?, toUpper_ne_colon (hname c List.mem_cons_self)]
  | cons a word ih =>
      simp only [List.mem_cons, not_or] at hword
      cases name with
      | nil =>
          have hupper : stop.toUpper ≠ a := by
            rcases hstop with rfl | rfl
            · exact hword.1.1
            · exact hword.2.1
          simp [afterWord?, hupper]
      | cons c name =>
          simp only [List.cons_append, afterWord?]
          split
          next hupper =>
            refine ih ⟨hword.1.2, hword.2.2⟩ (fun d hd => hname d (List.mem_cons_of_mem _ hd)) ?_
            rintro rfl
            exact hne (by simp [hupper])
          next => rfl

/-! ## What is read -/

theorem isName_of_line? {s rest : List Char} {line : Line} (hline : line? s = some (line, rest)) :
    IsName line.name ∧ ∀ q ∈ line.params, IsParameter q.1 q.2 := by
  rcases Option.or_eq_some_iff.mp hline with hfull | ⟨_, hbare⟩
  · simp only [fullLine?] at hfull
    split at hfull
    next => cases hfull
    next =>
      split at hfull
      next t _ =>
        obtain ⟨rfl, _⟩ := Prod.mk.inj (Option.some.inj hfull)
        exact ⟨isName_nameOf _, isParameter_of_mem_parameters _⟩
      next => cases hfull
  · simp only [bareLine?] at hbare
    split at hbare
    next => cases hbare
    next =>
      obtain ⟨rfl, _⟩ := Prod.mk.inj (Option.some.inj hbare)
      exact ⟨isName_nameOf _, by simp⟩

/-- Whatever line is read, it stands for a property as it can be read. -/
theorem isProperty_of_line? {s rest : List Char} {line : Line}
    (hline : line? s = some (line, rest)) :
    IsProperty (String.ofList line.name) line.property := by
  obtain ⟨hname, hparams⟩ := isName_of_line? hline
  refine ⟨by simpa using hname, fun q hq => ?_⟩
  have hmem := Dictionary.mem_of_get?_ofList (Dictionary.get?_eq_some_iff.mpr hq)
  obtain ⟨param, hparam, heq⟩ := List.mem_map.mp hmem
  obtain ⟨hfirst, hsecond⟩ := Prod.mk.inj heq
  rw [← hfirst, ← hsecond]
  simpa using hparams param hparam

end Almanac.Calendar
