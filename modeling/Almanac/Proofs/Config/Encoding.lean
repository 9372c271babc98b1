import Almanac.Config.Encode
import Almanac.Proofs.Json.ReadBack

/-!
# An encoded configuration holds all of it

The datum that an entry is encoded as is decoded to the same entry, and it can be written down
without loss. Both are shown for the kinds of fields first, then entry by entry from the rules
up to the whole configuration.
-/

namespace Almanac.Config

open Json (Plain)

/-- The datum is decoded to the value, and it can be written down. -/
structure Encodes {α : Type} (decode : Datum → Decoded α) (d : Datum) (x : α) : Prop where
  decodes : decode d = .ok x
  plain : Plain d

variable (dialect : Dialect)

/-! ## Fields -/

theorem encodes_string (s : String) : Encodes (string dialect) (.string s) s := ⟨rfl, .string s⟩

theorem encodes_optionDatum (s : Option String) :
    Encodes (stringOrNull dialect) (optionDatum s) s := by
  cases s with
  | none => exact ⟨rfl, .null⟩
  | some s => exact ⟨rfl, .string s⟩

/-- Every number of 64 bits is kept. -/
theorem encodes_word (n : UInt64) : Encodes (word dialect) (.integer n.toNat) n := by
  have hn := n.toNat_lt
  refine ⟨?_, .integer ⟨by omega, by omega⟩⟩
  rw [word, if_pos (by omega), Int.toNat_natCast]
  exact congrArg Except.ok n.ofNat_toNat

/-- A named value is encoded by a name that stands for it. -/
theorem encodes_nameIn {α : Type} [DecidableEq α] {names : List (String × α)} {x : α}
    (hx : variant names (names.map Prod.fst) (nameIn names x) = .ok x) :
    Encodes (named dialect names) (.string (nameIn names x)) x :=
  ⟨hx, .string _⟩

theorem encodes_check (check : Check) :
    Encodes (named dialect checkNames) (.string (nameIn checkNames check)) check :=
  encodes_nameIn dialect (by cases check <;> rfl)

theorem encodes_action (action : Action) :
    Encodes (named dialect actionNames) (.string (nameIn actionNames action)) action :=
  encodes_nameIn dialect (by cases action <;> rfl)

theorem encodes_service (service : Channel) :
    Encodes (named dialect serviceNames) (.string (nameIn serviceNames service)) service :=
  encodes_nameIn dialect (by cases service <;> rfl)

/-- A list is encoded item by item. -/
theorem encodes_list {α : Type} {decode : Datum → Decoded α} {encode : α → Datum}
    (hencode : ∀ x, Encodes decode (encode x) x) (xs : List α) :
    Encodes (listOf dialect decode) (.sequence (xs.map encode) true) xs := by
  have hitems : (xs.map encode).mapM decode = .ok xs := by
    induction xs with
    | nil => rfl
    | cons x xs ih =>
        rw [List.map_cons, List.mapM_cons, (hencode x).decodes, ih]
        rfl
  refine ⟨?_, .sequence ?_⟩
  · rw [listOf, hitems]
    rfl
  · intro d hd
    obtain ⟨x, _, rfl⟩ := List.mem_map.mp hd
    exact (hencode x).plain

/-! ## Entries -/

theorem encodes_rule (r : Rule) : Encodes (Rule.ofDatum dialect) r.toDatum r := by
  have hcheck := encodes_check dialect r.check
  have hvalues := encodes_list dialect (encodes_string dialect) r.values
  constructor
  · rw [Rule.ofDatum, Rule.toDatum, record]
    simp only [List.foldlM_cons, List.foldlM_nil, RulePart.put, once, stringsDatum, hcheck.decodes,
      hvalues.decodes]
    rfl
  · refine .mapping ?_
    simp [hcheck.plain, stringsDatum, hvalues.plain, Plain.string, Plain.bool]

theorem encodes_modifier (m : Modifier) : Encodes (Modifier.ofDatum dialect) m.toDatum m := by
  have haction := encodes_action dialect m.action
  have hguards := encodes_list dialect (encodes_rule dialect) m.guards
  constructor
  · rw [Modifier.ofDatum, Modifier.toDatum, record]
    simp only [List.foldlM_cons, List.foldlM_nil, ModifierPart.put, once, haction.decodes,
      hguards.decodes]
    rfl
  · refine .mapping ?_
    simp [haction.plain, hguards.plain, Plain.string]

theorem encodes_feed (f : Feed) : Encodes (Feed.ofDatum dialect) f.toDatum f := by
  have hrules := encodes_list dialect (encodes_rule dialect) f.rules
  have hmodifiers := encodes_list dialect (encodes_modifier dialect) f.modifiers
  constructor
  · rw [Feed.ofDatum, Feed.toDatum, record]
    simp only [List.foldlM_cons, List.foldlM_nil, FeedPart.put, once, hrules.decodes,
      hmodifiers.decodes]
    rfl
  · refine .mapping ?_
    simp [hrules.plain, hmodifiers.plain, Plain.string]

theorem encodes_output (o : Output) : Encodes (Output.ofDatum dialect) o.toDatum o := by
  have hheartbeat := encodes_word dialect o.heartbeat
  have hfeeds := encodes_list dialect (encodes_feed dialect) o.feeds
  constructor
  · rw [Output.ofDatum, Output.toDatum, record]
    simp only [List.foldlM_cons, List.foldlM_nil, OutputPart.put, once, hheartbeat.decodes,
      hfeeds.decodes]
    rfl
  · refine .mapping ?_
    simp [hheartbeat.plain, hfeeds.plain, Plain.string]

theorem encodes_notification (n : Notification) :
    Encodes (Notification.ofDatum dialect) n.toDatum n := by
  have hservice := encodes_service dialect n.service
  have hurl := encodes_optionDatum dialect n.url
  constructor
  · rw [Notification.ofDatum, Notification.toDatum, record]
    simp only [List.foldlM_cons, List.foldlM_nil, NotificationPart.put, once, hservice.decodes,
      hurl.decodes]
    rfl
  · refine .mapping ?_
    simp [hservice.plain, hurl.plain]

/-- Nothing of a configuration is lost in its data, whichever way they are decoded. -/
theorem encodes_config (c : Config) : Encodes (ofDatum dialect) c.toDatum c := by
  have hnotification := encodes_notification dialect c.notification
  have hlevel := encodes_optionDatum dialect c.logLevel
  have htimeout := encodes_word dialect c.fetchTimeout
  have hsources := encodes_list dialect (encodes_output dialect) c.sources
  constructor
  · rw [ofDatum, toDatum, record]
    simp only [List.foldlM_cons, List.foldlM_nil, Part.put, once, hnotification.decodes,
      hlevel.decodes, htimeout.decodes, hsources.decodes]
    rfl
  · refine .mapping ?_
    simp [hnotification.plain, hlevel.plain, htimeout.plain, hsources.plain]

end Almanac.Config
