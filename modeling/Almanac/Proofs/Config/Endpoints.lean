import Almanac.Proofs.Config.Requirements

/-!
# Endpoints

An output is published under its key. The path that is built from the key leads back to
it, so outputs share a path just when they share a key; and a configuration that has been
validated has no two outputs with the same key.
-/

namespace Almanac.Config

namespace Output

theorem head?_dropWhile_ne (s : List Char) : (s.dropWhile (· == '/')).head? ≠ some '/' := by
  intro hhead
  have hnot := List.head?_dropWhile_not (· == '/') s
  rw [hhead] at hnot
  simp at hnot

/-- A key does not begin with a slash. -/
theorem head?_keyChars_ne (endpoint : List Char) : (keyChars endpoint).head? ≠ some '/' := by
  have hhead := head?_dropWhile_ne (Text.trim endpoint)
  unfold keyChars
  cases hdrop : Text.dropSuffix? ".ics".toList ((Text.trim endpoint).dropWhile (· == '/')) with
  | none => simpa only [hdrop, Option.getD_none] using hhead
  | some key =>
      rw [Text.dropSuffix?_eq_some_iff.mp hdrop] at hhead
      simp only [hdrop, Option.getD_some]
      intro hkey
      obtain ⟨rest, rfl⟩ := List.head?_eq_some_iff.mp hkey
      exact hhead rfl

/-- A path that is made of a key has this key. -/
theorem keyChars_path {key : List Char} (hkey : key.head? ≠ some '/') :
    keyChars ('/' :: (key ++ ".ics".toList)) = key := by
  have htrim : Text.trim ('/' :: (key ++ ".ics".toList)) = '/' :: (key ++ ".ics".toList) := by
    apply Text.trim_of_ends
    · intro c hc
      obtain rfl := Option.some.inj hc
      decide
    · intro c hc
      obtain rfl : 's' = c := by simpa [List.getLast?_cons, List.getLast?_append] using hc
      decide
  have hslash : ('/' :: (key ++ ".ics".toList)).dropWhile (· == '/') = key ++ ".ics".toList := by
    rw [List.dropWhile_cons_of_pos (by rfl)]
    apply Text.dropWhile_of_head?
    intro c hc
    cases key with
    | nil =>
        obtain rfl : '.' = c := by simpa using hc
        rfl
    | cons first rest =>
        obtain rfl : first = c := by simpa using hc
        simpa using hkey
  have hsuffix : Text.dropSuffix? ".ics".toList (key ++ ".ics".toList) = some key :=
    Text.dropSuffix?_eq_some_iff.mpr rfl
  simp only [keyChars, htrim, hslash, hsuffix, Option.getD_some]

theorem toList_key (o : Output) : o.key.toList = keyChars o.endpoint.toList :=
  String.toList_ofList

theorem toList_servedPath (o : Output) :
    o.servedPath.toList = '/' :: (o.key.toList ++ ".ics".toList) := by
  simp [servedPath]

/-- The path of an output, taken as an endpoint, has the same key. -/
theorem key_of_servedPath (o p : Output) (hpath : p.endpoint = o.servedPath) : p.key = o.key := by
  apply String.toList_inj.mp
  rw [toList_key, hpath, toList_servedPath]
  apply keyChars_path
  rw [toList_key]
  exact head?_keyChars_ne _

theorem servedPath_inj (o p : Output) : o.servedPath = p.servedPath ↔ o.key = p.key := by
  constructor
  · intro hpath
    rw [← String.toList_inj, toList_servedPath, toList_servedPath] at hpath
    exact String.toList_inj.mp (List.append_cancel_right (List.cons.inj hpath).2)
  · intro hkey
    simp only [servedPath, hkey]

/-- The path of an output ends as no other path does. -/
theorem servedPath_ne_of_suffix (o : Output) {path : String}
    (hpath : Text.dropSuffix? ".ics".toList path.toList = none) : o.servedPath ≠ path := by
  rintro rfl
  rw [toList_servedPath, Text.dropSuffix?_eq_some_iff.mpr (List.cons_append).symm] at hpath
  cases hpath

end Output

/-! ## Validated outputs -/

/-- The keys of valid outputs are all different. -/
theorem IsValid.nodup_keys {c : Config} (hc : c.IsValid) : (c.sources.map Output.key).Nodup := by
  rw [List.nodup_iff_pairwise_ne, List.pairwise_map, List.pairwise_iff_getElem]
  intro i j hi hj hlt
  have hvalid := hc.sources j c.sources[j] (List.getElem?_eq_getElem hj)
  exact hvalid.unique _ (List.mem_take_iff_getElem.mpr ⟨i, by omega, rfl⟩)

/-- No two outputs of a validated configuration have the same key. -/
theorem nodup_keys_of_validate {c valid : Config} (hvalid : validate c = .ok valid) :
    (valid.sources.map Output.key).Nodup := by
  obtain ⟨hc, rfl⟩ := of_validate hvalid
  have hkeys : c.normalized.sources.map Output.key = c.sources.map Output.key :=
    List.map_map.trans rfl
  rw [hkeys]
  exact hc.nodup_keys

/-- Every output of a validated configuration is refreshed at intervals. -/
theorem refreshSeconds_pos_of_validate {c valid : Config} (hvalid : validate c = .ok valid)
    {o : Output} (ho : o ∈ valid.sources) : 0 < o.refreshSeconds := by
  obtain ⟨hc, rfl⟩ := of_validate hvalid
  obtain ⟨before, hbefore, rfl⟩ := List.mem_map.mp ho
  obtain ⟨i, hi⟩ := List.mem_iff_getElem?.mp hbefore
  have hheartbeat : 1 ≤ before.heartbeat.toNat :=
    UInt64.le_iff_toNat_le.mp (hc.sources i before hi).heartbeat
  show 0 < min (before.heartbeat.toNat * 60) Output.largestWord
  unfold Output.largestWord
  omega

end Almanac.Config
