import Almanac.Proofs.Config.Endpoints
import Almanac.Proofs.Config.Loaded
import Almanac.Proofs.Service.Past

/-!
# Intervals and the clock

A configuration may give any interval from a minute on, and the clock has a last second. If the
clock does not reach the end of the first interval, the ticker of a source ends when it starts.
Later due times are computed as refreshes begin, one interval ahead. So a source is refreshed by its
timetable as long as the clock has one interval more before it.
-/

namespace Almanac.Service

open Config (Output)

/-- The due times that a ticker computes: the first one, and as a refresh begins that of the
next. -/
def deadlines (interval first : Nat) (book : List Entry) : List Nat :=
  first :: (begins book).map (· + interval)

/-! ## Intervals of a configuration -/

/-- An interval that is cut off at the largest number lies beyond the clock too. -/
theorem isNone_firstDue? {o : Output} (hpos : 0 < o.refreshSeconds) (now : Nat) :
    (firstDue? now o.refreshSeconds).isNone =
      decide (lastSecond < now + o.heartbeat.toNat * 60) := by
  have hword : lastSecond < Output.largestWord := by decide
  have hreaches : lastSecond < now + o.refreshSeconds ↔
      lastSecond < now + o.heartbeat.toNat * 60 := by
    unfold Output.refreshSeconds
    omega
  have hzero : ¬o.refreshSeconds = 0 := Nat.ne_of_gt hpos
  unfold firstDue?
  simp only [hzero, hreaches, false_or]
  split
  next hlt => simp [hlt]
  next hle => simp [hle]

theorem refreshSeconds_eq {o : Output} {now : Nat}
    (hfits : now + o.heartbeat.toNat * 60 ≤ lastSecond) :
    o.refreshSeconds = o.heartbeat.toNat * 60 := by
  have hword : lastSecond ≤ Output.largestWord := by decide
  unfold Output.refreshSeconds
  omega

/-- A source is refreshed as long as the clock lasts. A configuration has been loaded, and a ticker
is made for one of its outputs, whatever the main flow does before and after that. If the first due
time, one interval from then, lies behind the last second of the clock, the ticker ends when it
starts and never does anything. Otherwise, as long as the clock has one interval more before it, the
ticker has not ended, it keeps its timetable, and every due time that it has computed is at most one
interval ahead. -/
theorem accepted_interval_is_kept_while_clock_lasts (tools : Nat → Tools)
    (plans : Dictionary Plan) (sinks : List Sink) {text : String} {config : Config}
    (hloaded : Config.ofToml text = .ok config ∨ Config.ofJson text = .ok config) {o : Output}
    (ho : o ∈ config.sources) (before after : List Act) (cache : Nat) :
    let quiet := World.quiet tools plans sinks
    let made := quiet.actAll before
    let flow := before ++ .spawn cache o :: after
    let reached := quiet.actAll flow
    let ended := reached.settle.ended[made.ended.length]?
    let book := quiet.book made.ended.length flow
    let interval := o.heartbeat.toNat * 60
    let first := made.now + interval
    0 < interval ∧
      (lastSecond < first → ended = some true ∧ book = []) ∧
      (reached.now + interval ≤ lastSecond →
        ended = some false ∧ KeepsTimetable interval first reached.now book ∧
          ∀ due ∈ deadlines interval first book, due ≤ reached.now + interval) := by
  intro quiet made flow reached ended book interval first
  obtain ⟨decoded, hvalid⟩ := Config.exists_validate_of_load hloaded
  have hpos := Config.refreshSeconds_pos_of_validate hvalid ho
  have hnumber : made.ended.length = spawns before := World.length_ended_actAll tools plans sinks _
  have hfirst := isNone_firstDue? hpos made.now
  have hended : ended = some (firstDue? made.now o.refreshSeconds).isNone :=
    World.ended_of_spawn tools plans sinks before after cache o
  have hmade : made.now ≤ reached.now := World.now_le_actAll_append tools plans sinks before _
  refine ⟨?_, fun hlapses => ?_, fun hlasts => ⟨?_, ?_, ?_⟩⟩
  · unfold Output.refreshSeconds at hpos
    omega
  · rw [decide_eq_true hlapses] at hfirst
    refine ⟨hfirst ▸ hended, ?_⟩
    show quiet.book made.ended.length flow = []
    rw [hnumber]
    exact World.book_eq_nil_of_spawn tools plans sinks before after cache o
      (Option.isNone_iff_eq_none.mp hfirst)
  · rw [decide_eq_false (by omega)] at hfirst
    exact hfirst ▸ hended
  · have hfits : made.now + o.heartbeat.toNat * 60 ≤ lastSecond :=
      Nat.le_trans (Nat.add_le_add_right hmade _) hlasts
    have hseconds := refreshSeconds_eq hfits
    have hkeeps := World.keepsTimetable_of_spawn tools plans sinks before after cache o hpos
      (hseconds.symm ▸ hfits)
    rw [hseconds, ← hnumber] at hkeeps
    exact hkeeps
  · intro due hdue
    rcases List.mem_cons.mp hdue with rfl | hdue
    · exact Nat.add_le_add_right hmade _
    · obtain ⟨start, hstart, rfl⟩ := List.mem_map.mp hdue
      obtain ⟨e, he, hbegins⟩ := List.mem_filterMap.mp hstart
      rw [Option.ite_none_right_eq_some] at hbegins
      obtain rfl := Option.some.inj hbegins.2
      exact Nat.add_le_add_right (World.time_le_of_mem_book_quiet tools plans sinks flow e he) _

theorem quarter_hours_are_kept :
    let text := "[[sources]]\nname = \"Team\"\nend_point = \"team.ics\"\nheartbeat = 15\n" ++
      "[[sources.feeds]]\nname = \"rota\"\nurl = \"https://rota.example/a\"\n"
    let o : Output := ⟨"Team", "team.ics", 15, [⟨"rota", "https://rota.example/a", [], []⟩]⟩
    let config : Config := ⟨⟨.none, none⟩, none, 30, [o]⟩
    let tools : Nat → Tools := fun _ => ⟨⟨"20240101T000000Z", fun _ => "id"⟩, "1ms"⟩
    let quiet := World.quiet tools ∅ []
    let flow : List Act := [.spawn 0 o, .sleep 2000]
    Config.ofToml text = .ok config ∧ o ∈ config.sources ∧
      (quiet.actAll flow).now + 900 ≤ lastSecond ∧
      (quiet.actAll flow).settle.ended[0]? = some false ∧
      KeepsTimetable 900 900 (quiet.actAll flow).now (quiet.book 0 flow) ∧
      deadlines 900 900 (quiet.book 0 flow) = [900, 1800, 2700] := by
  intro text o config tools quiet flow
  have hloaded : Config.ofToml text = .ok config := by decide +kernel
  have ho : o ∈ config.sources := List.mem_singleton_self o
  have hinterval : o.heartbeat.toNat * 60 = 900 := by decide
  have hlasts : (quiet.actAll flow).now + 900 ≤ lastSecond := by decide +kernel
  obtain ⟨_, _, hkept⟩ := accepted_interval_is_kept_while_clock_lasts tools ∅ []
    (.inl hloaded) ho [] [.sleep 2000] 0
  obtain ⟨hended, hkeeps, _⟩ := hkept (hinterval.symm ▸ hlasts)
  have hfirst : (World.actAll quiet []).now + 900 = 900 := by decide
  rw [hinterval, hfirst] at hkeeps
  exact ⟨hloaded, ho, hlasts, hended, hkeeps, by decide +kernel⟩

/-- An interval of billions of years is accepted, and its ticker ends at once. -/
theorem longest_interval_is_never_kept :
    let text := "[[sources]]\nname = \"Team\"\nend_point = \"team.ics\"\n" ++
      "heartbeat = 153722867280912931\n" ++
      "[[sources.feeds]]\nname = \"rota\"\nurl = \"https://rota.example/a\"\n"
    let o : Output :=
      ⟨"Team", "team.ics", 153722867280912931, [⟨"rota", "https://rota.example/a", [], []⟩]⟩
    let tools : Nat → Tools := fun _ => ⟨⟨"20240101T000000Z", fun _ => "id"⟩, "1ms"⟩
    let quiet := World.quiet tools ∅ []
    Config.ofToml text = .ok ⟨⟨.none, none⟩, none, 30, [o]⟩ ∧
      quiet.now = 0 ∧ lastSecond < quiet.now + o.refreshSeconds ∧
      (quiet.actAll [.spawn 0 o, .sleep 1]).ended = [true] := by
  decide +kernel

end Almanac.Service
