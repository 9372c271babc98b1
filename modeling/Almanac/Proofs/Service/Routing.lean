import Almanac.Proofs.Config.Endpoints
import Almanac.Proofs.Service.Running

/-!
# Routing

The outputs of a validated configuration have different keys, so the table of calendars
holds all of them. A request for a file is answered from the cache of the one output whose
key the file has, or there is nothing at that place.
-/

namespace Almanac.Service

open Config (Feed Output)
open Http (Request)
open Merge (Merged)

namespace Session.MirroredBy

variable {s : Session} {t : Traffic}

/-- Each output is served under its key, from the cache of its own number. -/
theorem served_eq (hs : s.MirroredBy t) :
    s.served = (s.stations.map Station.output).mapIdx fun i o => ⟨o.key, i⟩ := by
  obtain ⟨hlength, hget⟩ := List.forall₂_iff_get.mp hs.outputs
  have hreflects := hs.mirrors.sound.reflects
  have hserved := hreflects.served_eq
  rw [hs.mirrors.served_eq] at hserved
  apply List.ext_getElem
  · rw [List.length_mapIdx, hlength]
  · intro i hi hi'
    rw [List.length_mapIdx] at hi'
    have hstation : i < t.session.stations.length := by
      rw [hserved, List.length_mapIdx] at hi
      exact hi
    have hentry : s.served[i] = ⟨t.session.stations[i].output.key, i⟩ := by simp [hserved]
    have houtput := hget i hi hi'
    rw [List.get_eq_getElem, List.get_eq_getElem, hentry, ← hreflects.output_eq,
      Session.output?, List.getElem?_eq_getElem hstation] at houtput
    rw [hentry, List.getElem_mapIdx, ← Option.some.inj houtput]

/-- The log has started the outputs of the session, in order. -/
theorem outputOf?_eq (hs : s.MirroredBy t) (i : Nat) :
    outputOf? i t.log = (s.stations.map Station.output)[i]? := by
  obtain ⟨hlength, hget⟩ := List.forall₂_iff_get.mp hs.outputs
  have hserved := hs.served_eq
  by_cases hi : i < s.served.length
  · have houtput := hget i hi (hlength ▸ hi)
    have hcache : s.served[i].cache = i := by simp [hserved]
    rw [List.get_eq_getElem, List.get_eq_getElem, hcache] at houtput
    rw [houtput, List.getElem?_eq_getElem]
  · rw [List.getElem?_eq_none (hlength ▸ Nat.le_of_not_lt hi), Option.eq_none_iff_forall_ne_some]
    intro o ho
    have hlt := hs.mirrors.sound.reflects.lt_length_of_output ho
    have htraffic := hs.mirrors.sound.reflects.served_eq
    rw [hs.mirrors.served_eq] at htraffic
    rw [htraffic, List.length_mapIdx] at hi
    exact hi hlt

theorem lastPut?_eq (hs : s.MirroredBy t) (i : Nat) :
    lastPut? i t.log = s.world.caches[i]?.map Cache.current := by
  rw [← hs.mirrors.sound.reflects.edition_eq i, hs.mirrors.caches_eq]

/-- The cache of an output holds the whole result of a merge of that output. -/
theorem cache_of_output (hs : s.MirroredBy t) {i : Nat} {o : Output}
    (ho : (s.stations.map Station.output)[i]? = some o) :
    ∃ cache, s.world.caches[i]? = some cache ∧
      IsWholeMerge s.world.tools o cache.current.merged := by
  rw [← hs.outputOf?_eq] at ho
  obtain ⟨e, he⟩ := hs.mirrors.sound.reflects.put_of_output ho
  obtain ⟨o', ho', hmerge⟩ :=
    hs.mirrors.sound.isMergeOf_of_lastPut (List.append_nil t.log).symm he
  obtain rfl := Option.some.inj (ho'.symm.trans ho)
  rw [hs.lastPut?_eq] at he
  obtain ⟨cache, hcache, rfl⟩ := Option.map_eq_some_iff.mp he
  exact ⟨cache, hcache, hmerge.isWholeMerge⟩

theorem mem_servedCalendars (hs : s.MirroredBy t) {key : String} {m : Merged} :
    (key, m) ∈ s.servedCalendars ↔ ∃ (i : Nat) (o : Output) (cache : Cache),
      (s.stations.map Station.output)[i]? = some o ∧ o.key = key ∧
        s.world.caches[i]? = some cache ∧ cache.current.merged = m := by
  rw [← hs.servedCalendars_eq, hs.mirrors.sound.reflects.mem_servedCalendars]
  simp only [hs.outputOf?_eq, hs.lastPut?_eq, Option.map_eq_some_iff]
  constructor
  · rintro ⟨i, o, _, ho, hkey, ⟨cache, hcache, rfl⟩, hm⟩
    exact ⟨i, o, cache, ho, hkey, hcache, hm⟩
  · rintro ⟨i, o, cache, ho, hkey, hcache, hm⟩
    exact ⟨i, o, _, ho, hkey, ⟨cache, hcache, rfl⟩, hm⟩

end Session.MirroredBy

/-! ## Keys that differ -/

section Keys

variable {outputs : List Output} (hkeys : (outputs.map Output.key).Nodup)
include hkeys

theorem index_of_key {i j : Nat} {o p : Output} (ho : outputs[i]? = some o)
    (hp : outputs[j]? = some p) (hkey : o.key = p.key) : i = j := by
  have hi : i < (outputs.map Output.key).length := by
    rw [List.length_map]
    exact (List.getElem?_eq_some_iff.mp ho).1
  apply (List.getElem?_inj hi hkeys).mp
  rw [List.getElem?_map, List.getElem?_map, ho, hp, Option.map_some, Option.map_some, hkey]

/-- The table of calendars gives the key of an output the calendar in its cache. -/
theorem get?_servedCalendars {s : Session} {t : Traffic} (hs : s.MirroredBy t)
    (houtputs : s.stations.map Station.output = outputs) {i : Nat} {o : Output}
    (ho : outputs[i]? = some o) {cache : Cache} (hcache : s.world.caches[i]? = some cache) :
    (Dictionary.ofList s.servedCalendars).get? o.key = some cache.current.merged := by
  subst houtputs
  refine Dictionary.get?_ofList_of_mem
    (hs.mem_servedCalendars.mpr ⟨i, o, cache, ho, rfl, hcache, rfl⟩) fun m hm => ?_
  obtain ⟨j, p, other, hp, hkey, hother, rfl⟩ := hs.mem_servedCalendars.mp hm
  obtain rfl := index_of_key hkeys hp ho hkey
  rw [Option.some.inj (hother.symm.trans hcache)]

end Keys

/-- The file of a name is answered by the calendar that the table gives this name. -/
theorem request_of_get? {s : Session} {r : Request} (hmethod : r.method = "GET") {key : String}
    (hroute : r.route s.hasMetrics = .file (some (key.toList ++ ".ics".toList))) {m : Merged}
    (hget : (Dictionary.ofList s.servedCalendars).get? key = some m) :
    let response := Http.calendarResponse r (key.toList ++ ".ics".toList) m
    (s.request r).1.status = response.status ∧ (s.request r).1.body = response.body ∧
      ∀ value, ("etag", value) ∈ (s.request r).1.headers ↔ value = m.etag :=
  Http.respond_calendar _ s.hasMetrics r _ m hmethod hroute (Http.lookup_of_get? hget)

theorem answeredFrom_of_get? {s : Session} {r : Request} (hmethod : r.method = "GET")
    {key : String} (hroute : r.route s.hasMetrics = .file (some (key.toList ++ ".ics".toList)))
    {m : Merged} (hget : (Dictionary.ofList s.servedCalendars).get? key = some m) :
    AnsweredFrom m (s.request r).1 := by
  obtain ⟨hstatus, hbody, htag⟩ := request_of_get? hmethod hroute hget
  refine ⟨?_, htag⟩
  rw [hstatus, hbody]
  exact Http.calendarResponse_status r _ m

/-- A file that no served calendar has stands for none. -/
theorem lookup_eq_none {s : Session} {file : List Char}
    (hmissing : ∀ key m, file = key.toList ++ ".ics".toList → (key, m) ∉ s.servedCalendars) :
    Http.lookup (Dictionary.ofList s.servedCalendars) file = none := by
  rw [Http.lookup, Option.bind_eq_none_iff]
  intro key hkey
  rw [Http.calendarKey?, Option.map_eq_some_iff] at hkey
  obtain ⟨chars, hchars, rfl⟩ := hkey
  have hfile := Text.dropSuffix?_eq_some_iff.mp hchars
  cases hget : (Dictionary.ofList s.servedCalendars).get? (String.ofList chars) with
  | none => rfl
  | some m =>
      refine absurd (Dictionary.mem_of_get?_ofList hget) (hmissing _ m ?_)
      rw [String.toList_ofList]
      exact hfile

theorem request_of_missing {s : Session} {r : Request} (hmethod : r.method = "GET")
    {file : List Char} (hroute : r.route s.hasMetrics = .file (some file))
    (hmissing : ∀ key m, file = key.toList ++ ".ics".toList → (key, m) ∉ s.servedCalendars) :
    (s.request r).1.status = 404 ∧ (s.request r).1.body = "" :=
  Http.respond_missing _ s.hasMetrics r file hmethod hroute (lookup_eq_none hmissing)

/-- Routing is exact. A service has started the outputs of a validated configuration and has
carried out any commands. The outputs have different keys, each is served under its own from its
own cache, and none has the path of something else. A request for the file of an output is
answered from the cache of that output, which holds a whole merge of it; any other file is not
there. And a path stands for a key: outputs have the same path if they have the same key, and the
path taken as an endpoint leads to the key again. -/
theorem routing_is_exact (tools : Nat → Tools) (plans : Dictionary Plan) (sinks : List Sink)
    {config valid : Config} (hvalid : config.validate = .ok valid) (hasMetrics : Bool)
    {served : List Served} {s : Session}
    (hstarted : (Session.ofOutputs valid.sources (.quiet tools plans sinks)).startOutputs
      hasMetrics = (.ok served, s)) (commands : List Command) :
    let now := s.performAll commands
    (∀ (i j : Nat) (o p : Output), valid.sources[i]? = some o → valid.sources[j]? = some p →
        o.key = p.key → i = j) ∧
      now.served = valid.sources.mapIdx (fun i o => ⟨o.key, i⟩) ∧
      (∀ (i : Nat) (o : Output), valid.sources[i]? = some o →
        o.servedPath ≠ "/health" ∧ o.servedPath ≠ "/metrics" ∧
          ∃ cache : Cache, now.world.caches[i]? = some cache ∧
            IsWholeMerge tools o cache.current.merged ∧
            (Dictionary.ofList now.servedCalendars).get? o.key = some cache.current.merged ∧
            ∀ r : Request, r.method = "GET" →
              r.route hasMetrics = .file (some (o.key.toList ++ ".ics".toList)) →
                AnsweredFrom cache.current.merged (now.request r).1) ∧
      (∀ (r : Request) (file : List Char), r.method = "GET" →
        r.route hasMetrics = .file (some file) →
          (∀ o ∈ valid.sources, file ≠ o.key.toList ++ ".ics".toList) →
            (now.request r).1.status = 404 ∧ (now.request r).1.body = "") ∧
      ∀ o p : Output, (o.servedPath = p.servedPath ↔ o.key = p.key) ∧
        (p.endpoint = o.servedPath → p.key = o.key) := by
  intro now
  obtain ⟨t, ht, hmirrored, houtputs⟩ :=
    Session.exists_mirroredBy tools plans sinks valid.sources hasMetrics hstarted commands
  have hkeys := Config.nodup_keys_of_validate hvalid
  have hmetrics : now.hasMetrics = hasMetrics := by
    rw [← hmirrored.hasMetrics_eq, ht.reflects.hasMetrics_eq]
  have htools : now.world.tools = tools := by
    rw [← hmirrored.mirrors.sound.reflects.tools_eq, ht.reflects.tools_eq]
  refine ⟨fun i j o p => index_of_key hkeys, ?_, ?_, ?_, ?_⟩
  · rw [hmirrored.served_eq, houtputs]
  · intro i o ho
    obtain ⟨cache, hcache, hmerge⟩ := hmirrored.cache_of_output (houtputs.symm ▸ ho)
    rw [htools] at hmerge
    have hget := get?_servedCalendars hkeys hmirrored houtputs ho hcache
    refine ⟨?_, ?_, cache, hcache, hmerge, hget, fun r hmethod hroute => ?_⟩
    · exact o.servedPath_ne_of_suffix (by decide)
    · exact o.servedPath_ne_of_suffix (by decide)
    · rw [← hmetrics] at hroute
      exact answeredFrom_of_get? hmethod hroute hget
  · intro r file hmethod hroute hother
    rw [← hmetrics] at hroute
    refine request_of_missing hmethod hroute fun key m hfile hmem => ?_
    obtain ⟨i, o, _, ho, rfl, _⟩ := hmirrored.mem_servedCalendars.mp hmem
    rw [houtputs] at ho
    exact hother o (List.mem_of_getElem? ho) hfile
  · exact fun o p => ⟨o.servedPath_inj p, o.key_of_servedPath p⟩

theorem two_outputs_are_routed :
    let feed : Feed := ⟨"rota", "https://rota.example/a", [], []⟩
    let home : Output := ⟨"Home", " /home/all.ics.ics ", 30, [feed]⟩
    let config : Config :=
      ⟨⟨.none, none⟩, none, 10, [⟨"Team", "team.ics", 15, [feed]⟩, home]⟩
    let tools : Nat → Tools := fun _ => ⟨⟨"20240101T000000Z", toString⟩, "1ms"⟩
    let plans := Dictionary.ofList [("https://rota.example/a", ⟨0, .ok []⟩)]
    let r : Request := ⟨"GET", "/home/all.ics.ics", []⟩
    config.validate = .ok config ∧
      ∃ served s, (Session.ofOutputs config.sources (.quiet tools plans [])).startOutputs false =
        (.ok served, s) ∧
          ∃ cache : Cache, s.world.caches[1]? = some cache ∧
            IsWholeMerge tools home cache.current.merged ∧
            AnsweredFrom cache.current.merged (s.request r).1 := by
  intro feed home config tools plans r
  have hvalid : config.validate = .ok config := by decide +kernel
  have hstarted : ((Session.ofOutputs config.sources (.quiet tools plans [])).startOutputs
      false).1 = .ok [⟨"team", 0⟩, ⟨"home/all.ics", 1⟩] := by decide +kernel
  have hroute : r.route false = .file (some (home.key.toList ++ ".ics".toList)) := by
    decide +kernel
  rcases hran : (Session.ofOutputs config.sources (.quiet tools plans [])).startOutputs false with
    ⟨result, s⟩
  rw [hran] at hstarted
  obtain rfl : result = .ok [⟨"team", 0⟩, ⟨"home/all.ics", 1⟩] := hstarted
  obtain ⟨_, _, houtputs, _⟩ := routing_is_exact tools plans [] hvalid false hran []
  obtain ⟨_, _, cache, hcache, hmerge, _, hanswer⟩ := houtputs 1 home rfl
  exact ⟨hvalid, _, s, rfl, cache, hcache, hmerge, hanswer r rfl hroute⟩

end Almanac.Service
