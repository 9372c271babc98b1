import Almanac.Proofs.Http.Targets
import Almanac.Proofs.Service.Routing

/-!
# Published paths

The path under which a calendar is published is not escaped. Taken as a target it leads to the
calendar just if it is literal; the escaped path of a calendar always does.
-/

namespace Almanac

namespace Config.Output

/-- The path of an output in the form in which targets are sent. -/
def escapedPath (o : Output) : String :=
  String.ofList ('/' :: Url.escape Http.escapedInName (o.key.toList ++ ".ics".toList))

theorem toList_escapedPath (o : Output) :
    o.escapedPath.toList = '/' :: Url.escape Http.escapedInName (o.key.toList ++ ".ics".toList) :=
  String.toList_ofList

theorem escape_file (o : Output) :
    Url.escape Http.escapedInName (o.key.toList ++ ".ics".toList) =
      Url.escape Http.escapedInName o.key.toList ++ ".ics".toList :=
  List.flatMap_append

/-- An escaped path ends as no other path does. -/
theorem escapedPath_ne_of_suffix (o : Output) {path : String}
    (hpath : Text.dropSuffix? ".ics".toList path.toList = none) : o.escapedPath ≠ path := by
  rintro rfl
  rw [toList_escapedPath, escape_file,
    Text.dropSuffix?_eq_some_iff.mpr (List.cons_append).symm] at hpath
  cases hpath

end Config.Output

namespace Service

open Config (Feed Output)
open Http (Request)

section Targets

variable {r : Request} {hasMetrics : Bool} {o : Output}

theorem route_of_servedPath (htarget : r.target = o.servedPath)
    (hliteral : Http.isLiteral o.servedPath.toList = true) :
    r.route hasMetrics = .file (some (o.key.toList ++ ".ics".toList)) := by
  have hpath := o.toList_servedPath
  refine Http.route_of_isLiteral (htarget ▸ hpath) (hpath ▸ hliteral) (by simp) ?_ ?_
  · rw [htarget]
    exact o.servedPath_ne_of_suffix (by decide)
  · rw [htarget]
    exact o.servedPath_ne_of_suffix (by decide)

theorem route_of_escapedPath (htarget : r.target = o.escapedPath) :
    r.route hasMetrics = .file (some (o.key.toList ++ ".ics".toList)) := by
  refine Http.route_of_escaped (htarget ▸ o.toList_escapedPath) ?_ ?_ ?_
  · rw [o.escape_file]
    simp
  · rw [htarget]
    exact o.escapedPath_ne_of_suffix (by decide)
  · rw [htarget]
    exact o.escapedPath_ne_of_suffix (by decide)

/-- A path that is not literal does not lead to the file that it names. -/
theorem route_ne_of_servedPath (htarget : r.target = o.servedPath)
    (hliteral : Http.isLiteral o.servedPath.toList = false) :
    r.route hasMetrics ≠ .file (some (o.key.toList ++ ".ics".toList)) := by
  intro hroute
  have hpath := o.toList_servedPath
  have hlt := Http.length_lt_of_not_isLiteral (htarget ▸ hpath) hroute (hpath ▸ hliteral)
  exact Nat.lt_irrefl _ hlt

end Targets

/-- A request is answered from the cache of the output whose file its target stands for, or from
none. -/
theorem answeredFrom_or_untagged {outputs : List Output}
    (hkeys : (outputs.map Output.key).Nodup) {s : Session} {t : Traffic} (hs : s.MirroredBy t)
    (houtputs : s.stations.map Station.output = outputs) {r : Request}
    (hmethod : r.method = "GET") :
    (∃ (i : Nat) (o : Output) (cache : Cache), outputs[i]? = some o ∧
      r.route s.hasMetrics = .file (some (o.key.toList ++ ".ics".toList)) ∧
      s.world.caches[i]? = some cache ∧ AnsweredFrom cache.current.merged (s.request r).1) ∨
    ∀ tag, ("etag", tag) ∉ (s.request r).1.headers := by
  by_cases hfound : ∃ key m, r.route s.hasMetrics = .file (some (key.toList ++ ".ics".toList)) ∧
      (key, m) ∈ s.servedCalendars
  · left
    obtain ⟨key, m, hroute, hmem⟩ := hfound
    obtain ⟨i, o, cache, ho, rfl, hcache, rfl⟩ := hs.mem_servedCalendars.mp hmem
    rw [houtputs] at ho
    have hget := get?_servedCalendars hkeys hs houtputs ho hcache
    exact ⟨i, o, cache, ho, hroute, hcache, answeredFrom_of_get? hmethod hroute hget⟩
  · right
    refine Http.etag_notMem_respond hmethod fun file hroute =>
      lookup_eq_none fun key m hfile hmem => ?_
    exact hfound ⟨key, m, hfile ▸ hroute, hmem⟩

/-- The path under which a calendar is published leads to it just if it is literal. A service has
started the outputs of a validated configuration and has carried out any commands. A request for
the path of an output is answered from the cache of that output if the path is literal; otherwise
it is answered from the cache of another output, whose file the path stands for, or from none. A
request for the escaped path of an output is answered from the cache of that output always. -/
theorem literal_paths_lead_to_calendars (tools : Nat → Tools) (plans : Dictionary Plan)
    (sinks : List Sink) {config valid : Config} (hvalid : config.validate = .ok valid)
    (hasMetrics : Bool) {served : List Served} {s : Session}
    (hstarted : (Session.ofOutputs valid.sources (.quiet tools plans sinks)).startOutputs
      hasMetrics = (.ok served, s)) (commands : List Command) :
    let now := s.performAll commands
    ∀ (i : Nat) (o : Output), valid.sources[i]? = some o →
      ∃ cache : Cache, now.world.caches[i]? = some cache ∧
        IsWholeMerge tools o cache.current.merged ∧
        ∀ r : Request, r.method = "GET" →
          (r.target = o.servedPath → Http.isLiteral o.servedPath.toList = true →
            AnsweredFrom cache.current.merged (now.request r).1) ∧
          (r.target = o.servedPath → Http.isLiteral o.servedPath.toList = false →
            (∃ (j : Nat) (p : Output) (other : Cache), j ≠ i ∧ valid.sources[j]? = some p ∧
              r.route hasMetrics = .file (some (p.key.toList ++ ".ics".toList)) ∧
              now.world.caches[j]? = some other ∧
                AnsweredFrom other.current.merged (now.request r).1) ∨
            ∀ tag, ("etag", tag) ∉ (now.request r).1.headers) ∧
          (r.target = o.escapedPath → AnsweredFrom cache.current.merged (now.request r).1) := by
  intro now i o ho
  obtain ⟨t, ht, hmirrored, houtputs⟩ :=
    Session.exists_mirroredBy tools plans sinks valid.sources hasMetrics hstarted commands
  have hkeys := Config.nodup_keys_of_validate hvalid
  have hmetrics : now.hasMetrics = hasMetrics := by
    rw [← hmirrored.hasMetrics_eq, ht.reflects.hasMetrics_eq]
  have htools : now.world.tools = tools := by
    rw [← hmirrored.mirrors.sound.reflects.tools_eq, ht.reflects.tools_eq]
  obtain ⟨cache, hcache, hmerge⟩ := hmirrored.cache_of_output (houtputs.symm ▸ ho)
  rw [htools] at hmerge
  have hget := get?_servedCalendars hkeys hmirrored houtputs ho hcache
  subst hmetrics
  refine ⟨cache, hcache, hmerge, fun r hmethod => ⟨fun htarget hliteral => ?_,
    fun htarget hliteral => ?_, fun htarget => ?_⟩⟩
  · exact answeredFrom_of_get? hmethod (route_of_servedPath htarget hliteral) hget
  · refine (answeredFrom_or_untagged hkeys hmirrored houtputs hmethod).imp_left ?_
    rintro ⟨j, p, other, hp, hroute, hother, hanswers⟩
    refine ⟨j, p, other, ?_, hp, hroute, hother, hanswers⟩
    rintro rfl
    obtain rfl := Option.some.inj (hp.symm.trans ho)
    exact route_ne_of_servedPath htarget hliteral hroute
  · exact answeredFrom_of_get? hmethod (route_of_escapedPath htarget) hget

theorem escaped_path_of_percent_sign :
    let feed : Feed := ⟨"rota", "https://rota.example/a", [], []⟩
    let share : Output := ⟨"Share", "50%25.ics", 15, [feed]⟩
    let config : Config := ⟨⟨.none, none⟩, none, 10, [⟨"Team", "team.ics", 15, [feed]⟩, share]⟩
    let tools : Nat → Tools := fun _ => ⟨⟨"20240101T000000Z", toString⟩, "1ms"⟩
    let plans := Dictionary.ofList [("https://rota.example/a", ⟨0, .ok []⟩)]
    config.validate = .ok config ∧ share.servedPath = "/50%25.ics" ∧
      ∃ served s, (Session.ofOutputs config.sources (.quiet tools plans [])).startOutputs false =
        (.ok served, s) ∧
          ∃ cache : Cache, s.world.caches[1]? = some cache ∧
            AnsweredFrom cache.current.merged (s.request ⟨"GET", "/50%2525.ics", []⟩).1 := by
  intro feed share config tools plans
  have hvalid : config.validate = .ok config := by decide +kernel
  have hstarted : ((Session.ofOutputs config.sources (.quiet tools plans [])).startOutputs
      false).1 = .ok [⟨"team", 0⟩, ⟨"50%25", 1⟩] := by decide +kernel
  have hescaped : "/50%2525.ics" = share.escapedPath := by decide +kernel
  rcases hran : (Session.ofOutputs config.sources (.quiet tools plans [])).startOutputs false with
    ⟨result, s⟩
  rw [hran] at hstarted
  obtain rfl : result = .ok [⟨"team", 0⟩, ⟨"50%25", 1⟩] := hstarted
  obtain ⟨cache, hcache, _, hanswers⟩ :=
    literal_paths_lead_to_calendars tools plans [] hvalid false hran [] 1 share rfl
  exact ⟨hvalid, by decide +kernel, _, s, rfl, cache, hcache, (hanswers _ rfl).2.2 hescaped⟩

/-- A path with a percent sign leads to another calendar, one with a question mark to none. -/
theorem published_paths_lead_elsewhere :
    let feed : Feed := ⟨"rota", "https://rota.example/a", [], []⟩
    let config : Config := ⟨⟨.none, none⟩, none, 10,
      [⟨"First", "a%41", 15, [feed]⟩, ⟨"Second", "aA", 15, [feed]⟩,
        ⟨"News", "news?today", 15, [feed]⟩]⟩
    let tools : Nat → Tools := fun _ => ⟨⟨"20240101T000000Z", toString⟩, "1ms"⟩
    let plans := Dictionary.ofList [("https://rota.example/a", ⟨0, .ok []⟩)]
    let started := (Session.ofOutputs config.sources (.quiet tools plans [])).startOutputs false
    let s := started.2
    config.validate = .ok config ∧ started.1.isOk = true ∧
      config.sources.map Output.servedPath = ["/a%41.ics", "/aA.ics", "/news?today.ics"] ∧
      ∃ first second : Cache, s.world.caches[0]? = some first ∧ s.world.caches[1]? = some second ∧
        ¬AnsweredFrom first.current.merged (s.request ⟨"GET", "/a%41.ics", []⟩).1 ∧
        (s.request ⟨"GET", "/a%41.ics", []⟩).1.body = second.current.merged.calendar ∧
        (s.request ⟨"GET", "/news?today.ics", []⟩).1.status = 404 := by
  intro feed config tools plans started s
  let answer := (s.request ⟨"GET", "/a%41.ics", []⟩).1
  have hfirst : (s.world.caches[0]?.map fun c => c.current.merged.calendar != answer.body) =
      some true := by decide +kernel
  have hsecond : (s.world.caches[1]?.map fun c => c.current.merged.calendar) =
      some answer.body := by decide +kernel
  have hstatus : answer.status = 200 := by decide +kernel
  obtain ⟨first, hfirstCache, hdiffers⟩ := Option.map_eq_some_iff.mp hfirst
  obtain ⟨second, hsecondCache, hsame⟩ := Option.map_eq_some_iff.mp hsecond
  refine ⟨by decide +kernel, by decide +kernel, by decide +kernel, first, second, hfirstCache,
    hsecondCache, ?_, hsame.symm, by decide +kernel⟩
  rintro ⟨⟨_, hbody⟩ | ⟨hunchanged, _⟩, _⟩
  · exact bne_iff_ne.mp hdiffers hbody.symm
  · rw [hstatus] at hunchanged
    cases hunchanged

end Service

end Almanac
