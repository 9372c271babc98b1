import Almanac.Config.Load
import Almanac.Proofs.Config.Encoding
import Almanac.Proofs.Config.Requirements

/-!
# Loaded configurations

A configuration that has been loaded is in its normal form. Validating it once more changes
nothing, and its own text loads as the same configuration: the second names of fields, the
defaults and the spelling of numbers are gone, and all that was given is still there.
-/

namespace Almanac.Config

/-! ## The normal form -/

/-- A name in the normal form has no blank at either end and no small letter. -/
theorem normalField_normalField (field : String) :
    normalField (normalField field) = normalField field := by
  have htrim : Text.trim ((Text.trim field.toList).map Char.toUpper) =
      (Text.trim field.toList).map Char.toUpper := by
    apply Text.trim_of_ends
    · intro c hc
      rw [List.head?_map, Option.map_eq_some_iff] at hc
      obtain ⟨b, hb, rfl⟩ := hc
      rw [Text.isBlank_toUpper]
      exact Text.isBlank_of_head?_trim _ b hb
    · intro c hc
      rw [List.getLast?_map, Option.map_eq_some_iff] at hc
      obtain ⟨b, hb, rfl⟩ := hc
      rw [Text.isBlank_toUpper]
      exact Text.isBlank_of_getLast?_trim _ b hb
  have hupper : Char.toUpper ∘ Char.toUpper = Char.toUpper := funext Text.toUpper_toUpper
  simp only [normalField, String.toList_ofList, htrim, List.map_map, hupper]

theorem isBlankText_normalField (field : String) :
    Text.isBlankText (normalField field) = Text.isBlankText field := by
  rw [Bool.eq_iff_iff, ← normalField_eq_empty_iff, ← normalField_eq_empty_iff,
    normalField_normalField]

theorem map_map_of_idempotent {α : Type} {normalized : α → α}
    (hnormalized : ∀ x, normalized (normalized x) = normalized x) (xs : List α) :
    (xs.map normalized).map normalized = xs.map normalized := by
  rw [List.map_map]
  exact List.map_congr_left fun x _ => hnormalized x

theorem Rule.normalized_normalized (r : Rule) : r.normalized.normalized = r.normalized := by
  simp only [Rule.normalized_eq, normalField_normalField]

theorem Modifier.normalized_normalized (m : Modifier) :
    m.normalized.normalized = m.normalized := by
  simp only [Modifier.normalized_eq, normalField_normalField,
    map_map_of_idempotent Rule.normalized_normalized]

theorem Feed.normalized_normalized (f : Feed) : f.normalized.normalized = f.normalized := by
  simp only [Feed.normalized, map_map_of_idempotent Rule.normalized_normalized,
    map_map_of_idempotent Modifier.normalized_normalized]

theorem Output.normalized_normalized (o : Output) : o.normalized.normalized = o.normalized := by
  simp only [Output.normalized, map_map_of_idempotent Feed.normalized_normalized]

theorem normalized_normalized (c : Config) : c.normalized.normalized = c.normalized := by
  simp only [normalized, map_map_of_idempotent Output.normalized_normalized]

/-! ## Valid entries in their normal form -/

theorem Rule.IsValid.normalized {r : Rule} (hr : r.IsValid) : r.normalized.IsValid := by
  intro hcompares
  rw [Rule.normalized_eq, isBlankText_normalField]
  exact hr hcompares

theorem Modifier.IsValid.normalized {m : Modifier} (hm : m.IsValid) : m.normalized.IsValid where
  field := by
    intro hproperty
    rw [Modifier.normalized_eq, isBlankText_normalField]
    exact hm.field hproperty
  guards := List.forall_mem_map.mpr fun guard hguard => (hm.guards guard hguard).normalized

theorem Feed.IsValid.normalized {f : Feed} (hf : f.IsValid) : f.normalized.IsValid where
  name := hf.name
  url := hf.url
  rules := List.forall_mem_map.mpr fun rule hrule => (hf.rules rule hrule).normalized
  modifiers := List.forall_mem_map.mpr fun m hm => (hf.modifiers m hm).normalized

theorem Output.IsValid.normalized {earlier : List Output} {o : Output} (ho : o.IsValid earlier) :
    o.normalized.IsValid (earlier.map Output.normalized) where
  key := ho.key
  unique := List.forall_mem_map.mpr ho.unique
  heartbeat := ho.heartbeat
  someFeed := by simpa [Output.normalized] using ho.someFeed
  feeds := List.forall_mem_map.mpr fun f hf => (ho.feeds f hf).normalized

theorem IsValid.normalized {c : Config} (hc : c.IsValid) : c.normalized.IsValid where
  notification := hc.notification
  sources := by
    intro i o ho
    obtain ⟨given, hgiven, rfl⟩ : ∃ given, c.sources[i]? = some given ∧ given.normalized = o := by
      simpa [Config.normalized] using ho
    have hvalid := (hc.sources i given hgiven).normalized
    rwa [List.map_take] at hvalid

/-- What validation gives passes it once more and stays as it is. -/
theorem validate_of_validate {c valid : Config} (hvalid : c.validate = .ok valid) :
    valid.validate = .ok valid := by
  obtain ⟨hc, rfl⟩ := of_validate hvalid
  rw [validate_eq, verdict_eq_ok_iff, violations_eq_nil_iff]
  exact ⟨hc.normalized, (normalized_normalized c).symm⟩

/-! ## Loading -/

/-- What is loaded has been checked. -/
theorem exists_validate_of_load {text : String} {config : Config}
    (hloaded : ofToml text = .ok config ∨ ofJson text = .ok config) :
    ∃ decoded : Config, decoded.validate = .ok config := by
  rcases hloaded with htoml | hjson
  · unfold ofToml at htoml
    split at htoml
    next => cases htoml
    next =>
      split at htoml
      next => cases htoml
      next decoded _ =>
        split at htoml
        next hvalid =>
          obtain rfl := Except.ok.inj htoml
          exact ⟨decoded, hvalid⟩
        next => cases htoml
  · unfold ofJson at hjson
    dsimp only at hjson
    split at hjson
    next => cases hjson
    next decoded _ =>
      split at hjson
      next =>
        split at hjson
        next hvalid =>
          obtain rfl := Except.ok.inj hjson
          exact ⟨decoded, hvalid⟩
        next => cases hjson
      next => cases hjson

/-- A configuration that passes as it is is loaded from its own text. -/
theorem ofJson_toJson {c : Config} (hvalid : c.validate = .ok c) : ofJson c.toJson = .ok c := by
  have hencodes := encodes_config .json c
  have hread : Json.read c.toJson = (c.toDatum, true) := Json.read_write hencodes.plain
  simp only [ofJson, hread, hencodes.decodes, hvalid, if_true]

/-- A configuration that has been loaded, from either kind of text, is a fixed point: validation
leaves it as it is, and its own text loads as the same configuration. -/
theorem loaded_config_is_fixed_point {text : String} {c : Config}
    (hloaded : ofToml text = .ok c ∨ ofJson text = .ok c) :
    c.validate = .ok c ∧ ofJson c.toJson = .ok c := by
  obtain ⟨decoded, hdecoded⟩ := exists_validate_of_load hloaded
  have hvalid := validate_of_validate hdecoded
  exact ⟨hvalid, ofJson_toJson hvalid⟩

/-- Second names, a feed without names of its fields, a property in small letters and the largest
number of 64 bits: what is loaded of them is kept. -/
theorem team_with_bell_is_kept :
    let text := "\x7b\"sources\": [\x7b\"xwr_name\": \"Team\", \"end_point\": \"team\", " ++
      "\"heartbeat\": 18446744073709551615, \"info\": [[\"rota\", \"webcal://rota.example\", " ++
      "[], [[\"bell\", \" summary\", \"ADD_ALARM\"]]]]\x7d]\x7d"
    let bell : Modifier := ⟨"bell", "SUMMARY", .addAlarm, "", []⟩
    let o : Output :=
      ⟨"Team", "team", 18446744073709551615, [⟨"rota", "webcal://rota.example", [], [bell]⟩]⟩
    let c : Config := ⟨⟨.none, none⟩, none, 30, [o]⟩
    ofJson text = .ok c ∧ c.validate = .ok c ∧ ofJson c.toJson = .ok c := by
  intro text bell o c
  have hloaded : ofJson text = .ok c := by decide +kernel
  exact ⟨hloaded, loaded_config_is_fixed_point (.inr hloaded)⟩

end Almanac.Config
