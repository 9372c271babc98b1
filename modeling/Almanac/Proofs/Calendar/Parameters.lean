import Almanac.Calendar.Line
import Almanac.Calendar.Writer

/-!
# Parameters that are read back

What a parameter value can be when it has been read, which of these values can be
written without loss, and that the parameters of a line are then read as they were. Of
a value in quotation marks the marks are dropped; a list of such values keeps them.
-/

namespace Almanac.Calendar

/-! ## Spans -/

theorem takeWhile_append_stop {p : Char → Bool} {s : List Char} (hs : ∀ c ∈ s, p c = true)
    {stop : Char} (hstop : p stop = false) (rest : List Char) :
    (s ++ stop :: rest).takeWhile p = s := by
  rw [List.takeWhile_append_of_pos hs, List.takeWhile_cons_of_neg (by simp [hstop]),
    List.append_nil]

theorem dropWhile_append_stop {p : Char → Bool} {s : List Char} (hs : ∀ c ∈ s, p c = true)
    {stop : Char} (hstop : p stop = false) (rest : List Char) :
    (s ++ stop :: rest).dropWhile p = stop :: rest := by
  rw [List.dropWhile_append_of_pos hs, List.dropWhile_cons_of_neg (by simp [hstop])]

/-! ## Quoted texts -/

theorem quoted?_append {text : List Char} (hne : text ≠ []) (hquote : quoteMark ∉ text)
    (rest : List Char) :
    quoted? (quoteMark :: (text ++ quoteMark :: rest)) = some (text, rest) := by
  have hall : ∀ c ∈ text, (c != quoteMark) = true := by
    intro c hc
    simpa using fun heq : c = quoteMark => hquote (heq ▸ hc)
  have hstop : (quoteMark != quoteMark) = false := by simp
  simp only [quoted?, if_true, takeWhile_append_stop hall hstop, dropWhile_append_stop hall hstop]
  cases text with
  | nil => exact absurd rfl hne
  | cons c text => rfl

theorem of_quoted?_eq_some {s text rest : List Char} (hs : quoted? s = some (text, rest)) :
    text ≠ [] ∧ quoteMark ∉ text ∧ s = quoteMark :: (text ++ quoteMark :: rest) := by
  cases s with
  | nil => cases hs
  | cons c s =>
      simp only [quoted?] at hs
      split at hs
      next hc =>
        split at hs
        next d text' c' rest' htake hdrop =>
          obtain ⟨rfl, rfl⟩ := Prod.mk.inj (Option.some.inj hs)
          have hall := List.all_takeWhile (p := (· != quoteMark)) (l := s)
          rw [htake] at hall
          have hc' : c' = quoteMark := by
            have hnot := List.head_dropWhile_not (· != quoteMark) (l := s) (by simp [hdrop])
            simpa [hdrop] using hnot
          refine ⟨List.cons_ne_nil d text', fun hmem => ?_, ?_⟩
          · simpa using List.all_eq_true.mp hall quoteMark hmem
          · rw [hc, ← hc', ← hdrop, ← htake, List.takeWhile_append_dropWhile]
        next => cases hs
      next => cases hs

/-- Texts in quotation marks as they are written behind a first one. -/
def quotedTexts (texts : List (List Char)) : List Char :=
  texts.flatMap fun text => ',' :: quoteMark :: (text ++ [quoteMark])

theorem of_moreQuoted (s : List Char) :
    ∃ texts : List (List Char), (∀ text ∈ texts, text ≠ [] ∧ quoteMark ∉ text) ∧
      (moreQuoted s).1 = quotedTexts texts ∧ s = quotedTexts texts ++ (moreQuoted s).2 := by
  fun_induction moreQuoted s with
  | case1 t text rest hquoted _ more ih =>
      obtain ⟨texts, htexts, hmore, hrest⟩ := ih
      obtain ⟨hne, hquote, rfl⟩ := of_quoted?_eq_some hquoted
      refine ⟨text :: texts, ?_, ?_, ?_⟩
      · intro other hother
        rcases List.mem_cons.mp hother with rfl | hother
        · exact ⟨hne, hquote⟩
        · exact htexts other hother
      · simp [quotedTexts, more, hmore]
      · have hrest' : rest = quotedTexts texts ++ more.2 := hrest
        simp only [quotedTexts, List.flatMap_cons, List.cons_append, List.append_assoc,
          List.nil_append, List.cons.injEq, true_and, List.append_cancel_left_eq]
        exact hrest'
  | case2 => exact ⟨[], by simp, rfl, rfl⟩
  | case3 => exact ⟨[], by simp, rfl, rfl⟩

theorem moreQuoted_quotedTexts (texts : List (List Char))
    (htexts : ∀ text ∈ texts, text ≠ [] ∧ quoteMark ∉ text) {stop : Char} (hstop : stop ≠ ',')
    (rest : List Char) :
    moreQuoted (quotedTexts texts ++ stop :: rest) = (quotedTexts texts, stop :: rest) := by
  induction texts with
  | nil =>
      rw [show quotedTexts [] ++ stop :: rest = stop :: rest from rfl, moreQuoted]
      · rfl
      · rintro t heq
        exact hstop (List.cons.inj heq).1
  | cons text texts ih =>
      obtain ⟨hne, hquote⟩ := htexts text List.mem_cons_self
      have hmore := ih fun other hother => htexts other (List.mem_cons_of_mem _ hother)
      have hquoted := quoted?_append hne hquote (quotedTexts texts ++ stop :: rest)
      have hshape : quotedTexts (text :: texts) ++ stop :: rest =
          ',' :: quoteMark :: (text ++ quoteMark :: (quotedTexts texts ++ stop :: rest)) := by
        simp [quotedTexts]
      rw [hshape, moreQuoted]
      split
      next text' rest' hsome =>
        rw [hquoted] at hsome
        obtain ⟨rfl, rfl⟩ := Prod.mk.inj (Option.some.inj hsome)
        simp only [hmore]
        simp [quotedTexts]
      next hnone => rw [hquoted] at hnone; cases hnone

/-! ## Values -/

/-- What a parameter value can be when it has been read: a text that stood in quotation marks, a
list of such texts, or a text up to a semicolon or colon, in which a mark at the start did not
work. -/
inductive IsParameterValue : List Char → Prop
  | quoted (text : List Char) (hne : text ≠ []) (hquote : quoteMark ∉ text) : IsParameterValue text
  | list (first : List Char) (more : List (List Char)) (hmore : more ≠ [])
      (htexts : ∀ text ∈ first :: more, text ≠ [] ∧ quoteMark ∉ text) :
      IsParameterValue (quoteMark :: (first ++ quoteMark :: quotedTexts more))
  | plain (v : List Char) (hplain : ∀ c ∈ v, (c != ';' && c != ':') = true)
      (hopen : ∀ t, v = quoteMark :: t → t.head? = some quoteMark ∨ quoteMark ∉ t) :
      IsParameterValue v

/-- A parameter value that is written so that it is read back: no mark of its own stands between
marks that are put around it, and a mark at its start is followed by another one. -/
structure WritableValue (v : List Char) : Prop where
  marks : needsQuotes v = true → quoteMark ∉ v
  closed : v.head? = some quoteMark → quoteMark ∈ v.tail

theorem writableValue_iff (v : List Char) :
    WritableValue v ↔ (needsQuotes v = true → quoteMark ∉ v) ∧
      (v.head? = some quoteMark → quoteMark ∈ v.tail) :=
  ⟨fun h => ⟨h.marks, h.closed⟩, fun h => ⟨h.1, h.2⟩⟩

instance (v : List Char) : Decidable (WritableValue v) :=
  decidable_of_iff' _ (writableValue_iff v)

/-- A parameter value as it is written. -/
def writtenValue (v : List Char) : List Char := if needsQuotes v then '"' :: v ++ ['"'] else v

theorem quoted?_eq_none {v : List Char} (hopen : ∀ t, v = quoteMark :: t → t.head? = some quoteMark)
    {stop : Char} (hstop : stop ≠ quoteMark) (rest : List Char) :
    quoted? (v ++ stop :: rest) = none := by
  rw [Option.eq_none_iff_forall_ne_some]
  rintro ⟨text, after⟩ hsome
  obtain ⟨hne, hquote, hshape⟩ := of_quoted?_eq_some hsome
  cases v with
  | nil => exact hstop (List.cons.inj hshape).1
  | cons c v =>
      obtain ⟨rfl, htail⟩ := List.cons.inj hshape
      have hhead := hopen v rfl
      cases v with
      | nil => cases hhead
      | cons d v =>
          obtain rfl := Option.some.inj hhead
          cases text with
          | nil => exact hne rfl
          | cons c text => exact hquote ((List.cons.inj htail).1 ▸ List.mem_cons_self)

theorem isParameterValue_parameterValue (s : List Char) :
    IsParameterValue (parameterValue s).1 := by
  unfold parameterValue
  split
  next text rest hquoted =>
    obtain ⟨hne, hquote, _⟩ := of_quoted?_eq_some hquoted
    obtain ⟨texts, htexts, hmore, _⟩ := of_moreQuoted rest
    split
    next => exact .quoted text hne hquote
    next more rest' hnotNil hcases =>
      rw [hcases] at hmore
      obtain rfl : more = quotedTexts texts := hmore
      refine .list text texts (fun hnil => ?_) fun other hother => ?_
      · exact hnotNil (by rw [hnil]; rfl)
      · rcases List.mem_cons.mp hother with rfl | hother
        · exact ⟨hne, hquote⟩
        · exact htexts other hother
  next hnone =>
    refine .plain _ (fun c hc => List.all_eq_true.mp List.all_takeWhile c hc) fun t ht => ?_
    by_cases hmem : quoteMark ∈ t
    · obtain ⟨text, rest, rfl, hquote⟩ := List.eq_append_cons_of_mem hmem
      cases text with
      | nil => exact .inl rfl
      | cons c text =>
          -- With another mark later in the text this would have been a quoted text.
          have hs : s = quoteMark :: (c :: text ++ quoteMark :: (rest ++
              s.dropWhile fun c => c != ';' && c != ':')) := by
            have happend :=
              List.takeWhile_append_dropWhile (p := fun c => c != ';' && c != ':') (l := s)
            have htake : s.takeWhile (fun c => c != ';' && c != ':') =
                quoteMark :: (c :: text ++ quoteMark :: rest) := ht
            rw [htake] at happend
            simpa using happend.symm
          rw [hs, quoted?_append (List.cons_ne_nil c text) hquote] at hnone
          cases hnone
    · exact .inr hmem

/-- A parameter value is read as it was. -/
theorem parameterValue_writtenValue {v : List Char} (hv : IsParameterValue v)
    (hw : WritableValue v) {stop : Char} (hstop : stop = ';' ∨ stop = ':') (rest : List Char) :
    parameterValue (writtenValue v ++ stop :: rest) = (v, stop :: rest) := by
  have hcomma : stop ≠ ',' := by rcases hstop with rfl | rfl <;> decide
  have hmark : stop ≠ quoteMark := by rcases hstop with rfl | rfl <;> decide
  have hends : (stop != ';' && stop != ':') = false := by rcases hstop with rfl | rfl <;> decide
  -- Without marks of its own or around it a value ends at the semicolon or colon.
  have hplain : ∀ w : List Char, (∀ c ∈ w, (c != ';' && c != ':') = true) →
      (∀ t, w = quoteMark :: t → t.head? = some quoteMark) →
        parameterValue (w ++ stop :: rest) = (w, stop :: rest) := by
    intro w hall hopen
    simp only [parameterValue, quoted?_eq_none hopen hmark, takeWhile_append_stop hall hends,
      dropWhile_append_stop hall hends]
  unfold writtenValue
  split
  next hneeds =>
    have hne : v ≠ [] := by
      rintro rfl
      exact absurd hneeds (by decide)
    have hshape : '"' :: v ++ ['"'] ++ stop :: rest =
        quoteMark :: (v ++ quoteMark :: (stop :: rest)) := by simp [quoteMark]
    have hmore := moreQuoted_quotedTexts [] (by simp) hcomma rest
    simp only [quotedTexts, List.flatMap_nil, List.nil_append] at hmore
    simp only [hshape, parameterValue, quoted?_append hne (hw.marks hneeds), hmore]
  next hneeds =>
    cases hv with
    | quoted _ hne hquote =>
        refine hplain v (fun c hc => ?_) fun t ht => absurd (ht ▸ List.mem_cons_self) hquote
        have hhead : v.head? ≠ some '"' := fun hhead => hquote (List.mem_of_head? hhead)
        have hnone : ∀ c ∈ v, (c == ':' || c == ';' || c == ',') = false := by
          simpa [needsQuotes, hhead] using hneeds
        have hc' := hnone c hc
        simp only [Bool.or_eq_false_iff, beq_eq_false_iff_ne] at hc'
        simp [hc'.1.1, hc'.1.2]
    | list first more hmore htexts =>
        have hquoted := quoted?_append (htexts first List.mem_cons_self).1
          (htexts first List.mem_cons_self).2 (quotedTexts more ++ stop :: rest)
        have hrest := moreQuoted_quotedTexts more
          (fun text htext => htexts text (List.mem_cons_of_mem _ htext)) hcomma rest
        have hshape : quoteMark :: (first ++ quoteMark :: quotedTexts more) ++ stop :: rest =
            quoteMark :: (first ++ quoteMark :: (quotedTexts more ++ stop :: rest)) := by simp
        rw [hshape]
        simp only [parameterValue, hquoted, hrest]
        cases more with
        | nil => exact absurd rfl hmore
        | cons text more => simp [quotedTexts]
    | plain _ hall hopen =>
        refine hplain v hall fun t ht => ?_
        rcases hopen t ht with hhead | habsent
        · exact hhead
        · exact absurd (by simpa [ht] using hw.closed (by simp [ht])) habsent

/-! ## Names -/

/-- The text is a name. -/
abbrev IsName (s : List Char) : Prop := ∀ c ∈ s, isNameChar c = true

theorem isName_nameOf (s : List Char) : IsName (nameOf s) :=
  fun c hc => List.all_eq_true.mp List.all_takeWhile c hc

theorem nameOf_append {name : List Char} (hname : IsName name) {stop : Char}
    (hstop : isNameChar stop = false) (rest : List Char) :
    nameOf (name ++ stop :: rest) = name :=
  takeWhile_append_stop hname hstop rest

theorem afterName_append {name : List Char} (hname : IsName name) {stop : Char}
    (hstop : isNameChar stop = false) (rest : List Char) :
    afterName (name ++ stop :: rest) = stop :: rest :=
  dropWhile_append_stop hname hstop rest

/-- Where a name or its end is at the start, nothing is dropped that is not part of names. -/
theorem dropWhile_name {p : Char → Bool} {name : List Char} (hname : IsName name)
    (hp : ∀ c, isNameChar c = true → p c = false) {stop : Char} (hstop : p stop = false)
    (rest : List Char) : (name ++ stop :: rest).dropWhile p = name ++ stop :: rest := by
  cases name with
  | nil => exact List.dropWhile_cons_of_neg (by simp [hstop])
  | cons c name =>
      exact List.dropWhile_cons_of_neg (by simp [hp c (hname c List.mem_cons_self)])

/-! ## Parameters -/

/-- A parameter as it can be read. -/
structure IsParameter (name value : List Char) : Prop where
  name : IsName name
  value : IsParameterValue value

theorem isParameter_parameter (s : List Char) :
    IsParameter (parameter s).1.1 (parameter s).1.2 := by
  unfold parameter
  dsimp only
  split
  next rest _ => exact ⟨isName_nameOf _, isParameterValue_parameterValue rest⟩
  next => exact ⟨isName_nameOf _, .plain [] (by simp) (by simp)⟩

theorem isParameter_of_mem_parameters (s : List Char) :
    ∀ p ∈ (parameters s).1, IsParameter p.1 p.2 := by
  fun_induction parameters s with
  | case1 t more ih =>
      intro p hp
      rcases List.mem_cons.mp hp with rfl | hp
      · exact isParameter_parameter t
      · exact ih p hp
  | case2 => simp

theorem parameter_written {name value : List Char} (hp : IsParameter name value)
    (hw : WritableValue value) {stop : Char} (hstop : stop = ';' ∨ stop = ':') (rest : List Char) :
    parameter (name ++ '=' :: (writtenValue value ++ stop :: rest)) =
      ((name, value), stop :: rest) := by
  have hblank : ∀ c, isNameChar c = true → (c == ' ' || c == '\t') = false := by
    intro c hc
    simp only [Bool.or_eq_false_iff, beq_eq_false_iff_ne]
    constructor <;> rintro rfl <;> exact absurd hc (by decide)
  have hassign : isNameChar '=' = false := by decide
  have hstart := dropWhile_name hp.name hblank (show ('=' == ' ' || '=' == '\t') = false by decide)
    (writtenValue value ++ stop :: rest)
  have hname := nameOf_append hp.name hassign (writtenValue value ++ stop :: rest)
  have hafter := afterName_append hp.name hassign (writtenValue value ++ stop :: rest)
  simp only [parameter, hstart, hname, hafter, parameterValue_writtenValue hp.value hw hstop]

/-- Parameters as they are written. -/
def writtenParameters (params : List (String × String)) : List Char :=
  params.flatMap fun p => writeParameter p.1 p.2

theorem writtenParameters_cons (p : String × String) (params : List (String × String)) :
    writtenParameters (p :: params) =
      ';' :: (p.1.toList ++ '=' :: writtenValue p.2.toList) ++ writtenParameters params := rfl

/-- Behind a name stand a semicolon or a colon. -/
theorem writtenParameters_stop (params : List (String × String)) (rest : List Char) :
    ∃ stop t, (stop = ';' ∨ stop = ':') ∧ writtenParameters params ++ ':' :: rest = stop :: t := by
  cases params with
  | nil => exact ⟨':', rest, .inr rfl, rfl⟩
  | cons p params => exact ⟨';', _, .inl rfl, rfl⟩

/-- Parameters are read as they were. -/
theorem parameters_written (params : List (String × String))
    (hparams : ∀ p ∈ params, IsParameter p.1.toList p.2.toList ∧ WritableValue p.2.toList)
    (rest : List Char) :
    parameters (writtenParameters params ++ ':' :: rest) =
      (params.map fun p => (p.1.toList, p.2.toList), ':' :: rest) := by
  induction params with
  | nil =>
      rw [show writtenParameters [] ++ ':' :: rest = ':' :: rest from rfl, parameters]
      · rfl
      · rintro t heq
        exact absurd (List.cons.inj heq).1 (by decide)
  | cons p params ih =>
      obtain ⟨hp, hw⟩ := hparams p List.mem_cons_self
      have hrest := ih fun q hq => hparams q (List.mem_cons_of_mem _ hq)
      obtain ⟨stop, t, hstop, ht⟩ := writtenParameters_stop params rest
      have hshape : writtenParameters (p :: params) ++ ':' :: rest =
          ';' :: (p.1.toList ++ '=' :: (writtenValue p.2.toList ++ stop :: t)) := by
        rw [← ht, writtenParameters_cons]
        simp
      rw [hshape, parameters, parameter_written hp hw hstop, ← ht, hrest]
      rfl

end Almanac.Calendar
