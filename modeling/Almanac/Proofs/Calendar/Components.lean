import Almanac.Proofs.Calendar.Lines

/-!
# Components that are read

What a component can be when it has been read from a body: names are names, a property
stands among those that its name belongs to, and a name that may be given several times
has at least one property. The steps of the reader are stated on their own, for text
that may have line ends before it.
-/

namespace Almanac.Calendar

namespace Component

/-- The component and all components inside it, at any depth, have a quality. -/
inductive Everywhere (P : Component → Prop) : Component → Prop
  | intro (c : Component) (here : P c) (inside : ∀ child ∈ c.children, Everywhere P child) :
      Everywhere P c

/-- A component as it can be read, apart from the components inside it. -/
structure IsRead (c : Component) : Prop where
  kind : IsName c.kind.toList
  single : ∀ name p, c.single.get? name = some p →
    name ∉ repeatableNames ∧ IsProperty name p
  repeated : ∀ name ps, c.repeated.get? name = some ps →
    name ∈ repeatableNames ∧ ps ≠ [] ∧ ∀ p ∈ ps, IsProperty name p

/-- The component can be written so that it is read back, apart from the components inside it. -/
structure Writable (c : Component) : Prop where
  single : ∀ name p, c.single.get? name = some p → WritableProperty name p
  repeated : ∀ name ps, c.repeated.get? name = some ps → ∀ p ∈ ps, WritableProperty name p

theorem writable_iff (c : Component) :
    c.Writable ↔ (∀ e ∈ c.single.entries, WritableProperty e.1 e.2) ∧
      ∀ e ∈ c.repeated.entries, ∀ p ∈ e.2, WritableProperty e.1 p := by
  constructor
  · intro h
    exact ⟨fun e he => h.single e.1 e.2 (Dictionary.get?_eq_some_iff.mpr he),
      fun e he => h.repeated e.1 e.2 (Dictionary.get?_eq_some_iff.mpr he)⟩
  · intro h
    exact ⟨fun name p hp => h.1 (name, p) (Dictionary.get?_eq_some_iff.mp hp),
      fun name ps hps => h.2 (name, ps) (Dictionary.get?_eq_some_iff.mp hps)⟩

instance (c : Component) : Decidable c.Writable := decidable_of_iff' _ (writable_iff c)

theorem everywhere_iff (P : Component → Prop) (c : Component) :
    c.Everywhere P ↔ P c ∧ ∀ child ∈ c.children, child.Everywhere P :=
  ⟨fun ⟨_, here, inside⟩ => ⟨here, inside⟩, fun h => ⟨c, h.1, h.2⟩⟩

mutual

/-- A quality that can be decided can be decided everywhere. -/
def decideEverywhere (P : Component → Prop) [DecidablePred P] :
    (c : Component) → Decidable (c.Everywhere P)
  | ⟨kind, single, repeated, children⟩ =>
    have := decideInside P children
    decidable_of_iff' _ (everywhere_iff P ⟨kind, single, repeated, children⟩)

/-- A quality that can be decided can be decided of all components of a list. -/
def decideInside (P : Component → Prop) [DecidablePred P] :
    (cs : List Component) → Decidable (∀ c ∈ cs, c.Everywhere P)
  | [] => isTrue (by simp)
  | c :: cs =>
    have := decideEverywhere P c
    have := decideInside P cs
    decidable_of_iff' _ List.forall_mem_cons

end

instance (P : Component → Prop) [DecidablePred P] (c : Component) : Decidable (c.Everywhere P) :=
  decideEverywhere P c

mutual

/-- Whether two components are the same can be decided from the outside in. -/
def decideEq : (c d : Component) → Decidable (c = d)
  | ⟨kind, single, repeated, children⟩, ⟨kind', single', repeated', children'⟩ =>
    have := decideEqAll children children'
    decidable_of_iff' (kind = kind' ∧ single = single' ∧ repeated = repeated' ∧
      children = children') (by rw [Component.mk.injEq])

/-- Whether two lists of components are the same can be decided one by one. -/
def decideEqAll : (cs ds : List Component) → Decidable (cs = ds)
  | [], [] => isTrue rfl
  | [], _ :: _ => isFalse (by simp)
  | _ :: _, [] => isFalse (by simp)
  | c :: cs, d :: ds =>
    have := decideEq c d
    have := decideEqAll cs ds
    decidable_of_iff' (c = d ∧ cs = ds) (by rw [List.cons.injEq])

end

instance : DecidableEq Component := decideEq

theorem isRead_ofKind {kind : String} (hkind : IsName kind.toList) : (ofKind kind).IsRead where
  kind := hkind
  single name p hp := by simp [ofKind] at hp
  repeated name ps hps := by simp [ofKind] at hps

theorem IsRead.set {c : Component} (hc : c.IsRead) {name : String} {p : Property}
    (hname : name ∉ repeatableNames) (hp : IsProperty name p) : (c.set name p).IsRead where
  kind := hc.kind
  single other q hq := by
    rw [Component.set, Dictionary.get?_set] at hq
    split at hq
    next heq =>
      obtain rfl := Option.some.inj hq
      exact heq ▸ ⟨hname, hp⟩
    next => exact hc.single other q hq
  repeated := hc.repeated

theorem IsRead.addRepeated {c : Component} (hc : c.IsRead) {name : String} {p : Property}
    (hname : name ∈ repeatableNames) (hp : IsProperty name p) : (c.addRepeated name p).IsRead where
  kind := hc.kind
  single := hc.single
  repeated other qs hqs := by
    rw [Component.addRepeated, Dictionary.get?_set] at hqs
    split at hqs
    next heq =>
      subst heq
      obtain rfl := Option.some.inj hqs
      refine ⟨hname, by simp, fun q hq => ?_⟩
      rcases List.mem_append.mp hq with hq | hq
      · cases hold : c.repeated.get? name with
        | none => simp [hold] at hq
        | some ps => exact (hc.repeated name ps hold).2.2 q (by simpa [hold] using hq)
      · rw [List.mem_singleton.mp hq]
        exact hp
    next => exact hc.repeated other qs hqs

theorem IsRead.add {c : Component} (hc : c.IsRead) {name : String} {p : Property}
    (hp : IsProperty name p) : (c.add name p).IsRead := by
  unfold Component.add
  split
  next hname => exact hc.addRepeated hname hp
  next hname => exact hc.set hname hp

theorem add_kind (c : Component) (name : String) (p : Property) :
    (c.add name p).kind = c.kind := by
  unfold Component.add
  split <;> rfl

theorem add_children (c : Component) (name : String) (p : Property) :
    (c.add name p).children = c.children := by
  unfold Component.add
  split <;> rfl

theorem Everywhere.add {c : Component} (hc : c.Everywhere IsRead) {name : String} {p : Property}
    (hp : IsProperty name p) : (c.add name p).Everywhere IsRead := by
  obtain ⟨_, hhere, hinside⟩ := hc
  refine ⟨_, hhere.add hp, fun child hchild => hinside child ?_⟩
  rwa [add_children] at hchild

theorem Everywhere.addChild {c child : Component} (hc : c.Everywhere IsRead)
    (hchild : child.Everywhere IsRead) : (c.addChild child).Everywhere IsRead := by
  obtain ⟨_, hhere, hinside⟩ := hc
  refine ⟨_, ⟨hhere.kind, hhere.single, hhere.repeated⟩, fun other hother => ?_⟩
  rcases List.mem_append.mp hother with hother | hother
  · exact hinside other hother
  · rw [List.mem_singleton.mp hother]
    exact hchild

theorem everywhere_ofKind {kind : String} (hkind : IsName kind.toList) :
    (ofKind kind).Everywhere IsRead :=
  ⟨_, isRead_ofKind hkind, fun child hchild => by simp [ofKind] at hchild⟩

end Component

open Component

theorem isName_of_opening? {s kind rest : List Char} (hopening : opening? s = some (kind, rest)) :
    IsName kind := by
  obtain ⟨t, _, ht⟩ := Option.map_eq_some_iff.mp hopening
  obtain ⟨rfl, _⟩ := Prod.mk.inj ht
  exact isName_nameOf t

/-- Each step of the reader keeps what it has read as it can be read. -/
theorem everywhere_of_readOpen {here c : Component} {outer : List Component}
    {text rest : List Char} (hread : readOpen here outer text = some (c, rest))
    (hhere : here.Everywhere IsRead) (houter : ∀ o ∈ outer, o.Everywhere IsRead) :
    c.Everywhere IsRead := by
  fun_induction readOpen here outer text with
  | case1 here text rest' _ _ =>
      obtain ⟨rfl, _⟩ := Prod.mk.inj (Option.some.inj hread)
      exact hhere
  | case2 here text rest' _ _ parent outer ih =>
      exact ih hread ((houter parent List.mem_cons_self).addChild hhere)
        fun o ho => houter o (List.mem_cons_of_mem _ ho)
  | case3 here outer text _ kind rest' hopening _ ih =>
      refine ih hread (everywhere_ofKind ?_) fun o ho => ?_
      · simpa using isName_of_opening? hopening
      · rcases List.mem_cons.mp ho with rfl | ho
        · exact hhere
        · exact houter o ho
  | case4 here outer text _ _ line rest' hline _ ih =>
      exact ih hread (hhere.add (isProperty_of_line? hline)) houter
  | case5 => cases hread

/-- The events of a body are as they can be read, and are events. -/
theorem everywhere_of_events? {body : String} {events : List Component}
    (hread : events? body = .ok events) :
    ∀ e ∈ events, e.Everywhere IsRead ∧ e.kind = eventKind := by
  unfold events? at hread
  split at hread
  next => cases hread
  next =>
    split at hread
    next calendar hcalendar =>
      obtain rfl := Except.ok.inj hread
      simp only [component?, Option.bind_eq_bind, Option.bind_eq_some_iff] at hcalendar
      obtain ⟨⟨kind, rest⟩, hopening, ⟨c, rest'⟩, hopen, hwhole⟩ := hcalendar
      have hc := everywhere_of_readOpen hopen
        (everywhere_ofKind (by simpa using isName_of_opening? hopening)) (by simp)
      split at hwhole
      next =>
        obtain rfl := Option.some.inj hwhole
        obtain ⟨_, _, hinside⟩ := hc
        intro e he
        unfold Component.events at he
        split at he
        next =>
          obtain ⟨hmem, hkind⟩ := List.mem_filter.mp he
          exact ⟨hinside e hmem, by simpa using hkind⟩
        next => cases he
      next => cases hwhole
    next => cases hread

/-! ## Steps of the reader -/

theorem readOpen_end {here : Component} {text rest : List Char}
    (hclosing : closing? here.kind.toList (skipLineEnds text) = some rest) :
    readOpen here [] text = some (here, rest) := by
  rw [readOpen]
  split
  next _ hsome =>
    obtain rfl := Option.some.inj (hsome.symm.trans hclosing)
    rfl
  next hnone => rw [hclosing] at hnone; cases hnone

theorem readOpen_closing {here parent : Component} {outer : List Component}
    {text rest : List Char}
    (hclosing : closing? here.kind.toList (skipLineEnds text) = some rest) :
    readOpen here (parent :: outer) text = readOpen (parent.addChild here) outer rest := by
  rw [readOpen]
  split
  next _ hsome =>
    obtain rfl := Option.some.inj (hsome.symm.trans hclosing)
    rfl
  next hnone => rw [hclosing] at hnone; cases hnone

theorem readOpen_opening {here : Component} {outer : List Component} {text kind rest : List Char}
    (hclosing : closing? here.kind.toList (skipLineEnds text) = none)
    (hopening : opening? (skipLineEnds text) = some (kind, rest)) :
    readOpen here outer text = readOpen (.ofKind (String.ofList kind)) (here :: outer) rest := by
  rw [readOpen]
  split
  next _ hsome => rw [hclosing] at hsome; cases hsome
  next =>
    split
    next _ _ hsome =>
      obtain ⟨rfl, rfl⟩ := Prod.mk.inj (Option.some.inj (hsome.symm.trans hopening))
      rfl
    next hnone => rw [hopening] at hnone; cases hnone

theorem readOpen_line {here : Component} {outer : List Component} {text rest : List Char}
    {line : Line} (hclosing : closing? here.kind.toList (skipLineEnds text) = none)
    (hopening : opening? (skipLineEnds text) = none)
    (hline : line? (skipLineEnds text) = some (line, rest)) :
    readOpen here outer text =
      readOpen (here.add (String.ofList line.name) line.property) outer rest := by
  rw [readOpen]
  split
  next _ hsome => rw [hclosing] at hsome; cases hsome
  next =>
    split
    next _ _ hsome => rw [hopening] at hsome; cases hsome
    next =>
      split
      next _ _ hsome =>
        obtain ⟨rfl, rfl⟩ := Prod.mk.inj (Option.some.inj (hsome.symm.trans hline))
        rfl
      next hnone => rw [hline] at hnone; cases hnone

theorem readOpen_stuck {here : Component} {outer : List Component} {text : List Char}
    (hclosing : closing? here.kind.toList (skipLineEnds text) = none)
    (hopening : opening? (skipLineEnds text) = none) (hline : line? (skipLineEnds text) = none) :
    readOpen here outer text = none := by
  rw [readOpen]
  split
  next _ hsome => rw [hclosing] at hsome; cases hsome
  next =>
    split
    next _ _ hsome => rw [hopening] at hsome; cases hsome
    next =>
      split
      next _ _ hsome => rw [hline] at hsome; cases hsome
      next => rfl

/-- A line end before the text does not count. -/
theorem readOpen_lineEnd (here : Component) (outer : List Component) (text : List Char) :
    readOpen here outer (lineEnd ++ text) = readOpen here outer text := by
  have hskip : skipLineEnds (lineEnd ++ text) = skipLineEnds text := by
    simp [lineEnd, skipLineEnds]
  -- The reader looks only at what stands behind the line ends, in every branch.
  cases hclosing : closing? here.kind.toList (skipLineEnds text) with
  | some rest =>
      cases outer with
      | nil => rw [readOpen_end hclosing, readOpen_end (hskip ▸ hclosing)]
      | cons parent outer => rw [readOpen_closing hclosing, readOpen_closing (hskip ▸ hclosing)]
  | none =>
      cases hopening : opening? (skipLineEnds text) with
      | some r =>
          rw [readOpen_opening hclosing hopening,
            readOpen_opening (hskip ▸ hclosing) (hskip ▸ hopening)]
      | none =>
          cases hline : line? (skipLineEnds text) with
          | some r =>
              rw [readOpen_line hclosing hopening hline,
                readOpen_line (hskip ▸ hclosing) (hskip ▸ hopening) (hskip ▸ hline)]
          | none =>
              rw [readOpen_stuck hclosing hopening hline,
                readOpen_stuck (hskip ▸ hclosing) (hskip ▸ hopening) (hskip ▸ hline)]

end Almanac.Calendar
