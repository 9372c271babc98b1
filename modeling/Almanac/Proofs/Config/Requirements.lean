import Almanac.Config.Validation
import Almanac.Proofs.Text.Capitals
import Almanac.Proofs.Text.Trim

/-!
# What a configuration has to meet

The requirements on a configuration, entry by entry, told twice: as what holds of a valid
entry, and as the list of all that is wrong with an entry, in the order of the
configuration. Validation stops early, but its outcome is told by this list: it gives the first
thing that is wrong, and if there is none the configuration with its property names in their
normal form.
-/

namespace Almanac.Config

/-- What is wrong with the entry at this path, if it is. -/
def finding (path : String) (fault : Fault) (present : Prop) [Decidable present] : List Invalid :=
  if present then [⟨path, fault⟩] else []

/-- What is wrong with the entries of a list, in order. The path of an entry is that of the list and
the number of the entry in brackets. -/
def findings {α : Type} (violations : String → α → List Invalid) (list : String) (xs : List α) :
    List Invalid :=
  xs.zipIdx.flatMap fun e => violations (list ++ "[" ++ toString e.2 ++ "]") e.1

namespace Rule

/-- A comparing rule names the property that it reads. -/
def IsValid (r : Rule) : Prop := r.check.isFirstOf = false → Text.isBlankText r.field = false

/-- What is wrong with a rule. -/
def violations (path : String) (r : Rule) : List Invalid :=
  finding path .componentMissing (r.check.isFirstOf = false ∧ Text.isBlankText r.field = true)

/-- The rule with its property name in the normal form, trimmed and in capitals. -/
def normalized (r : Rule) : Rule :=
  { r with field := String.ofList ((Text.trim r.field.toList).map Char.toUpper) }

end Rule

namespace Modifier

/-- A modifier names the property that it changes, unless it is an alarm, and its guards are
valid. -/
structure IsValid (m : Modifier) : Prop where
  field : m.action ≠ .addAlarm → Text.isBlankText m.field = false
  guards : ∀ guard ∈ m.guards, guard.IsValid

/-- What is wrong with a modifier, and then with its guards. -/
def violations (path : String) (m : Modifier) : List Invalid :=
  finding path .componentMissing (m.action ≠ .addAlarm ∧ Text.isBlankText m.field = true) ++
    findings Rule.violations (path ++ ".rules") m.guards

/-- The modifier with its property names in the normal form, trimmed and in capitals. -/
def normalized (m : Modifier) : Modifier :=
  { m with
    field := String.ofList ((Text.trim m.field.toList).map Char.toUpper)
    guards := m.guards.map Rule.normalized }

end Modifier

namespace Feed

/-- A feed has a name and an address with a host, and its rules and modifiers are valid. -/
structure IsValid (f : Feed) : Prop where
  name : Text.isBlankText f.name = false
  url : ∃ host, Url.host? f.url = .ok (some host) ∧ host ≠ .name ""
  rules : ∀ rule ∈ f.rules, rule.IsValid
  modifiers : ∀ m ∈ f.modifiers, m.IsValid

/-- What is wrong with an address: it is blank, it cannot be parsed, or it has no host. -/
def urlFault? (url : String) : Option Fault :=
  match Url.host? url with
  | .error e => some (if Text.isBlankText url then .urlMissing else .urlInvalid e)
  | .ok host => if Url.hasHost host then none else some .hostMissing

/-- What is wrong with a feed: its name, its address, its rules, its modifiers. -/
def violations (path : String) (f : Feed) : List Invalid :=
  finding path .nameMissing (Text.isBlankText f.name = true) ++
    (urlFault? f.url).toList.map (Invalid.mk path) ++
    findings Rule.violations (path ++ ".rules") f.rules ++
    findings Modifier.violations (path ++ ".modifiers") f.modifiers

/-- The feed with its property names in the normal form. -/
def normalized (f : Feed) : Feed :=
  { f with rules := f.rules.map Rule.normalized, modifiers := f.modifiers.map Modifier.normalized }

end Feed

namespace Output

/-- An output behind these has a key of its own, an interval and feeds, all of them valid. -/
structure IsValid (earlier : List Output) (o : Output) : Prop where
  key : o.key ≠ ""
  unique : ∀ other ∈ earlier, other.key ≠ o.key
  heartbeat : 1 ≤ o.heartbeat
  someFeed : o.feeds ≠ []
  feeds : ∀ f ∈ o.feeds, f.IsValid

/-- What is wrong with an output behind these: its key, its interval, its feeds. -/
def violations (earlier : List Output) (path : String) (o : Output) : List Invalid :=
  finding path .endpointMissing (o.key = "") ++
    finding path .endpointNotUnique (∃ other ∈ earlier, other.key = o.key) ++
    finding path .heartbeatZero (o.heartbeat = 0) ++
    finding path .noFeeds (o.feeds = []) ++
    findings Feed.violations (path ++ ".feeds") o.feeds

/-- The output with its property names in the normal form. -/
def normalized (o : Output) : Output := { o with feeds := o.feeds.map Feed.normalized }

end Output

namespace Notification

/-- A service that notifications go to has an address. -/
def IsValid (n : Notification) : Prop :=
  n.service = .none ∨ ∃ url ∈ n.url, Text.isBlankText url = false

/-- What is wrong with where notifications go. -/
def violations (n : Notification) : List Invalid :=
  finding "notification" .notificationUrlMissing
    (n.service ≠ .none ∧ ∀ url ∈ n.url, Text.isBlankText url = true)

end Notification

/-- Notifications have a place to go to, and every output is valid behind those before it. -/
structure IsValid (c : Config) : Prop where
  notification : c.notification.IsValid
  sources : ∀ (i : Nat) (o : Output), c.sources[i]? = some o → o.IsValid (c.sources.take i)

/-- All that is wrong with a configuration, in order. -/
def violations (c : Config) : List Invalid :=
  c.notification.violations ++
    c.sources.zipIdx.flatMap fun e =>
      e.1.violations (c.sources.take e.2) ("sources[" ++ toString e.2 ++ "]")

/-- The configuration with its property names in the normal form. -/
def normalized (c : Config) : Config := { c with sources := c.sources.map Output.normalized }

/-! ## Outcomes of checks -/

section Verdict

variable {α β : Type} {x : α} {y : β} {vs ws : List Invalid}

/-- The value, or the first thing that is wrong. -/
def verdict (violations : List Invalid) (x : α) : Checked α :=
  match violations with
  | [] => .ok x
  | e :: _ => .error e

theorem verdict_eq_ok_iff {z : α} : verdict vs x = .ok z ↔ vs = [] ∧ z = x := by
  cases vs <;> simp [verdict, eq_comm]

theorem verdict_eq_error_iff {e : Invalid} : verdict vs x = .error e ↔ vs.head? = some e := by
  cases vs <;> simp [verdict]

/-- One check behind another. -/
theorem verdict_bind {next : α → Checked β} (hnext : next x = verdict ws y) :
    verdict vs x >>= next = verdict (vs ++ ws) y := by
  cases vs with
  | nil => exact hnext
  | cons e vs => rfl

theorem verdict_bind_ok (f : α → β) : (verdict vs x >>= fun a => .ok (f a)) = verdict vs (f x) := by
  cases vs <;> rfl

/-- A fault that is looked for before anything else. -/
theorem verdict_finding {path : String} {fault : Fault} {present : Prop} [Decidable present]
    {rest : Checked α} (hrest : rest = verdict vs x) :
    (if present then .error ⟨path, fault⟩ else rest) =
      verdict (finding path fault present ++ vs) x := by
  by_cases hpresent : present
  · simp [finding, hpresent, verdict]
  · simpa [finding, hpresent] using hrest

theorem finding_eq_nil_iff {path : String} {fault : Fault} {present : Prop} [Decidable present] :
    finding path fault present = [] ↔ ¬present := by
  by_cases hpresent : present <;> simp [finding, hpresent]

theorem findings_eq_nil_iff {violations : String → α → List Invalid} {valid : α → Prop}
    (hvalid : ∀ path x, violations path x = [] ↔ valid x) (list : String) (xs : List α) :
    findings violations list xs = [] ↔ ∀ x ∈ xs, valid x := by
  simp only [findings, List.flatMap_eq_nil_iff, hvalid]
  constructor
  · intro hall x hx
    obtain ⟨i, hi, rfl⟩ := List.mem_iff_getElem.mp hx
    exact hall (xs[i], i) (List.mk_mem_zipIdx_iff_getElem?.mpr (List.getElem?_eq_getElem hi))
  · intro hall e he
    exact hall e.1 (List.fst_mem_of_mem_zipIdx he)

/-- A list is checked entry by entry. -/
theorem checkEach_eq {check : String → α → Checked α} {violations : String → α → List Invalid}
    {normal : α → α} (hcheck : ∀ path x, check path x = verdict (violations path x) (normal x))
    (base list : String) (i : Nat) (xs : List α) :
    checkEach check base list i xs =
      verdict
        ((xs.zipIdx i).flatMap fun e => violations (base ++ list ++ "[" ++ toString e.2 ++ "]") e.1)
        (xs.map normal) := by
  induction xs generalizing i with
  | nil => rfl
  | cons x xs ih =>
      rw [checkEach, hcheck, entryPath, ih, List.zipIdx_cons, List.flatMap_cons, List.map_cons]
      exact verdict_bind (verdict_bind_ok _)

end Verdict

/-! ## Names and addresses -/

/-- The outputs lie at the top. -/
theorem entryPath_sources (i : Nat) :
    entryPath "" "sources" i = "sources[" ++ toString i ++ "]" := by
  have hlist : "" ++ "sources" ++ "[" = "sources[" := by decide
  rw [entryPath, hlist]

theorem Rule.normalized_eq (r : Rule) : r.normalized = { r with field := normalField r.field } :=
  rfl

theorem Modifier.normalized_eq (m : Modifier) :
    m.normalized =
      { m with field := normalField m.field, guards := m.guards.map Rule.normalized } :=
  rfl

theorem normalField_eq_empty_iff (field : String) :
    normalField field = "" ↔ Text.isBlankText field = true := by
  rw [normalField, Text.isBlankText, List.all_eq_true, ← Text.trim_eq_nil_iff, ← String.toList_inj,
    String.toList_ofList]
  exact List.map_eq_nil_iff

/-- A blank text has no scheme, so it is no address. -/
theorem host?_of_isBlankText {url : String} (hblank : Text.isBlankText url = true) :
    Url.host? url = .error .relative := by
  have hall : ∀ c ∈ Url.significant url.toList, Text.isBlank c = true := by
    intro c hc
    apply List.all_eq_true.mp hblank
    have hkept := (List.mem_filter.mp hc).1
    rw [List.mem_reverse] at hkept
    have hinner := (List.dropWhile_suffix _).subset hkept
    rw [List.mem_reverse] at hinner
    exact (List.dropWhile_suffix _).subset hinner
  have hnone : Url.scheme? (Url.significant url.toList) = none := by
    unfold Url.scheme?
    split
    next => rfl
    next c s hs =>
      have hletter := Text.isAlpha_of_isBlank (hall c (hs ▸ List.mem_cons_self))
      simp [hletter]
  rw [Url.host?, hnone]

theorem hasHost_iff (host : Option Url.Host) :
    Url.hasHost host = true ↔ ∃ h, host = some h ∧ h ≠ .name "" := by
  cases host <;> simp [Url.hasHost]

theorem urlFault?_eq_none_iff (url : String) :
    Feed.urlFault? url = none ↔ ∃ host, Url.host? url = .ok (some host) ∧ host ≠ .name "" := by
  unfold Feed.urlFault?
  cases Url.host? url with
  | error e => simp
  | ok host => simp [← hasHost_iff]

/-! ## Entries -/

theorem checkRule_eq (path : String) (r : Rule) :
    checkRule path r = verdict (r.violations path) r.normalized := by
  simp only [checkRule, normalField_eq_empty_iff, Rule.violations]
  rw [← List.append_nil (finding _ _ _)]
  exact verdict_finding rfl

theorem checkModifier_eq (path : String) (m : Modifier) :
    checkModifier path m = verdict (m.violations path) m.normalized := by
  simp only [checkModifier, normalField_eq_empty_iff, Modifier.violations]
  refine verdict_finding ?_
  rw [checkEach_eq checkRule_eq]
  exact verdict_bind_ok _

theorem checkUrl_eq (path url : String) :
    checkUrl path url = verdict ((Feed.urlFault? url).toList.map (Invalid.mk path)) () := by
  unfold checkUrl Feed.urlFault?
  by_cases hblank : Text.isBlankText url = true
  · rw [if_pos hblank, host?_of_isBlankText hblank]
    simp [hblank, verdict]
  · rw [if_neg hblank]
    cases Url.host? url with
    | error e => simp [hblank, verdict]
    | ok host => cases hhost : Url.hasHost host <;> simp [hhost, verdict]

theorem checkFeed_eq (path : String) (f : Feed) :
    checkFeed path f = verdict (f.violations path) f.normalized := by
  simp only [checkFeed, Feed.violations, List.append_assoc]
  refine verdict_finding ?_
  rw [checkUrl_eq, checkEach_eq checkRule_eq, checkEach_eq checkModifier_eq]
  exact verdict_bind (verdict_bind (verdict_bind_ok _))

theorem checkOutput_eq {taken : List String} {earlier : List Output}
    (htaken : ∀ key, key ∈ taken ↔ ∃ other ∈ earlier, other.key = key) (path : String)
    (o : Output) :
    checkOutput taken path o = verdict (o.violations earlier path) o.normalized := by
  simp only [checkOutput, htaken, List.isEmpty_iff, Output.violations, List.append_assoc]
  refine verdict_finding (verdict_finding (verdict_finding (verdict_finding ?_)))
  rw [checkEach_eq checkFeed_eq]
  exact verdict_bind_ok _

theorem checkOutputs_eq (earlier : List Output) {taken : List String}
    (htaken : ∀ key, key ∈ taken ↔ ∃ other ∈ earlier, other.key = key) (outputs : List Output) :
    checkOutputs taken earlier.length outputs =
      verdict ((outputs.zipIdx earlier.length).flatMap fun e =>
          e.1.violations ((earlier ++ outputs).take e.2) ("sources[" ++ toString e.2 ++ "]"))
        (outputs.map Output.normalized) := by
  induction outputs generalizing taken earlier with
  | nil => rfl
  | cons o outputs ih =>
      -- The first output stands before all that follow.
      have hnext : ∀ key, key ∈ o.key :: taken ↔ ∃ other ∈ earlier ++ [o], other.key = key := by
        intro key
        simp [htaken, or_comm, eq_comm]
      have hrest := ih (earlier ++ [o]) hnext
      rw [List.length_append, List.length_singleton, List.append_assoc,
        List.singleton_append] at hrest
      rw [checkOutputs, checkOutput_eq htaken, entryPath_sources, hrest, List.zipIdx_cons,
        List.flatMap_cons, List.take_left, List.map_cons]
      exact verdict_bind (verdict_bind_ok _)

theorem checkNotification_eq (n : Notification) :
    checkNotification n = verdict n.violations () := by
  have hurl : (n.url.map Text.isBlankText).getD true = true ↔
      ∀ url ∈ n.url, Text.isBlankText url = true := by
    cases n.url <;> simp
  simp only [checkNotification, hurl, Notification.violations]
  rw [← List.append_nil (finding _ _ _)]
  exact verdict_finding rfl

theorem validate_eq (c : Config) : c.validate = verdict c.violations c.normalized := by
  have hsources : checkOutputs [] 0 c.sources =
      verdict (c.sources.zipIdx.flatMap fun e =>
          e.1.violations (c.sources.take e.2) ("sources[" ++ toString e.2 ++ "]"))
        (c.sources.map Output.normalized) :=
    checkOutputs_eq [] (by simp) c.sources
  rw [validate, checkNotification_eq, hsources]
  exact verdict_bind (verdict_bind_ok _)

/-! ## Valid entries -/

theorem Rule.violations_eq_nil_iff (path : String) (r : Rule) :
    r.violations path = [] ↔ r.IsValid := by
  rw [Rule.violations, finding_eq_nil_iff, Rule.IsValid]
  simp

theorem Modifier.violations_eq_nil_iff (path : String) (m : Modifier) :
    m.violations path = [] ↔ m.IsValid := by
  rw [Modifier.violations, List.append_eq_nil_iff, finding_eq_nil_iff,
    findings_eq_nil_iff Rule.violations_eq_nil_iff]
  exact ⟨fun h => ⟨by simpa using h.1, h.2⟩, fun h => ⟨by simpa using h.field, h.guards⟩⟩

theorem Feed.violations_eq_nil_iff (path : String) (f : Feed) :
    f.violations path = [] ↔ f.IsValid := by
  rw [Feed.violations, List.append_eq_nil_iff, List.append_eq_nil_iff, List.append_eq_nil_iff,
    finding_eq_nil_iff, findings_eq_nil_iff Rule.violations_eq_nil_iff,
    findings_eq_nil_iff Modifier.violations_eq_nil_iff, List.map_eq_nil_iff,
    Option.toList_eq_nil_iff, urlFault?_eq_none_iff]
  constructor
  · rintro ⟨⟨⟨hname, hurl⟩, hrules⟩, hmodifiers⟩
    exact ⟨by simpa using hname, hurl, hrules, hmodifiers⟩
  · intro h
    exact ⟨⟨⟨by simp [h.name], h.url⟩, h.rules⟩, h.modifiers⟩

theorem Output.violations_eq_nil_iff (earlier : List Output) (path : String) (o : Output) :
    o.violations earlier path = [] ↔ o.IsValid earlier := by
  have hheartbeat : ¬o.heartbeat = 0 ↔ 1 ≤ o.heartbeat := by
    rw [← UInt64.toNat_inj, UInt64.le_iff_toNat_le]
    show ¬o.heartbeat.toNat = 0 ↔ 1 ≤ o.heartbeat.toNat
    omega
  simp only [Output.violations, List.append_eq_nil_iff, finding_eq_nil_iff, hheartbeat,
    findings_eq_nil_iff Feed.violations_eq_nil_iff]
  constructor
  · rintro ⟨⟨⟨⟨hkey, hunique⟩, hheartbeat⟩, hsome⟩, hfeeds⟩
    exact ⟨hkey, fun other hother heq => hunique ⟨other, hother, heq⟩, hheartbeat, hsome, hfeeds⟩
  · intro h
    exact ⟨⟨⟨⟨h.key, fun ⟨other, hother, heq⟩ => h.unique other hother heq⟩, h.heartbeat⟩,
      h.someFeed⟩, h.feeds⟩

theorem Notification.violations_eq_nil_iff (n : Notification) :
    n.violations = [] ↔ n.IsValid := by
  rw [Notification.violations, finding_eq_nil_iff, Notification.IsValid]
  simp only [not_and_or, not_not, not_forall, Bool.not_eq_true, exists_prop]

theorem violations_eq_nil_iff (c : Config) : c.violations = [] ↔ c.IsValid := by
  rw [violations, List.append_eq_nil_iff, Notification.violations_eq_nil_iff,
    List.flatMap_eq_nil_iff]
  simp only [Output.violations_eq_nil_iff]
  constructor
  · rintro ⟨hnotification, hsources⟩
    exact ⟨hnotification, fun i o ho =>
      hsources (o, i) (List.mk_mem_zipIdx_iff_getElem?.mpr ho)⟩
  · intro h
    exact ⟨h.notification, fun e he =>
      h.sources e.2 e.1 (List.mk_mem_zipIdx_iff_getElem?.mp he)⟩

/-- What validation gives is a valid configuration with its property names in their normal form. -/
theorem of_validate {c valid : Config} (hvalid : validate c = .ok valid) :
    c.IsValid ∧ valid = c.normalized := by
  rwa [validate_eq, verdict_eq_ok_iff, violations_eq_nil_iff] at hvalid

/-- Validation decides whether a configuration is valid. A valid one passes, and what is made of it
is the same configuration with its property names in their normal form, trimmed and in capitals.
Any other one is refused, for the first thing that is wrong with it in the order of its entries. -/
theorem validate_gives_first_violation (c : Config) :
    (∀ valid, c.validate = .ok valid ↔ c.IsValid ∧ valid = c.normalized) ∧
      ∀ e, c.validate = .error e ↔ c.violations.head? = some e := by
  rw [validate_eq]
  refine ⟨fun valid => ?_, fun e => verdict_eq_error_iff⟩
  rw [verdict_eq_ok_iff, violations_eq_nil_iff]

/-- A guard without a property, and behind it an output with the key of another and no interval. -/
example :
    let guards : List Rule := [⟨"", "", .firstOfDay, false, []⟩, ⟨"", " ", .contains, false, []⟩]
    let feed (guards : List Rule) : Feed :=
      ⟨"rota", "webcal://rota.example/a", [], [⟨"mark", " summary", .append, "!", guards⟩]⟩
    let c : Config := ⟨⟨.none, none⟩, none, 30,
      [⟨"Team", "/team", 5, [feed guards]⟩, ⟨"Crew", "team.ics", 0, [feed []]⟩]⟩
    c.violations.map (fun e => (e.path, e.fault.message)) =
        [("sources[0].feeds[0].modifiers[0].rules[1]", "component is missing"),
          ("sources[1]", "end_point is not unique"),
          ("sources[1]", "heartbeat must be greater than 0")] ∧
      c.validate = .error ⟨"sources[0].feeds[0].modifiers[0].rules[1]", .componentMissing⟩ := by
  decide +kernel

end Almanac.Config
