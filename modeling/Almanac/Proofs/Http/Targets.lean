import Mathlib.Data.List.TakeWhile
import Almanac.Proofs.Http.Answer
import Almanac.Proofs.Url.Percent

/-!
# Targets

A target leads to the file that it names if it is literal: nothing in it begins a query or a
fragment, and no percent sign in it stands for a byte. Any other target leads somewhere else. The
escaped form of a name leads to the file of that name.
-/

namespace Almanac.Http

open Merge (Merged)
open Text (hasEscape percentDecode utf8)

/-- The target is the path that it leads to. -/
def isLiteral (target : List Char) : Bool :=
  !target.contains '?' && !target.contains '#' && !hasEscape (utf8 target)

/-- Characters of a name that are sent as their bytes: the percent sign too. -/
def escapedInName (c : Char) : Bool := Url.escapedInPath c || c == '%'

/-! ## Paths -/

theorem beforeQuery_of_notMem {s : List Char} (hquery : '?' ∉ s) (hfragment : '#' ∉ s) :
    beforeQuery s = s := by
  refine List.takeWhile_eq_self_iff.mpr fun c hc => ?_
  have hne : c ≠ '?' ∧ c ≠ '#' := ⟨fun h => hquery (h ▸ hc), fun h => hfragment (h ▸ hc)⟩
  simp [hne]

theorem beforeQuery_append (s : List Char) :
    ∃ rest, s = beforeQuery s ++ rest ∧ (rest = [] → '?' ∉ s ∧ '#' ∉ s) := by
  refine ⟨s.dropWhile fun c => c != '?' && c != '#', List.takeWhile_append_dropWhile.symm,
    fun hrest => ?_⟩
  have hall := List.dropWhile_eq_nil_iff.mp hrest
  constructor <;> exact fun hmem => by simpa using hall _ hmem

theorem path?_of_target {r : Request} {file : List Char} (htarget : r.target.toList = '/' :: file) :
    r.path? = some ('/' :: beforeQuery file) := by
  rw [Request.path?, htarget]
  rfl

theorem isLiteral_iff {file : List Char} : isLiteral ('/' :: file) = true ↔
    '?' ∉ file ∧ '#' ∉ file ∧ hasEscape (utf8 file) = false := by
  have hbytes : hasEscape (utf8 ('/' :: file)) = hasEscape (utf8 file) := by
    rw [Text.utf8_cons, show Text.utf8Char '/' = [0x2F] from rfl, List.singleton_append, hasEscape,
      Text.startsEscape_of_ne (by decide), Bool.false_or]
  simp [isLiteral, hbytes, and_assoc]

/-! ## Routes -/

section Routes

variable {r : Request} {hasMetrics : Bool} {file : List Char}

theorem route_eq {path : List Char} (hpath : r.path? = some path) :
    r.route hasMetrics = routeOf hasMetrics path := by
  rw [Request.route, hpath]

/-- A path that is none of the two others leads to the file that it names. -/
theorem route_of_path {path : List Char} (hpath : r.path? = some path) (hfile : path = '/' :: file)
    (hne : file ≠ []) (hhealth : path ≠ "/health".toList) (hmetrics : path ≠ "/metrics".toList) :
    r.route hasMetrics = .file (Text.ofUtf8? (percentDecode (utf8 file))) := by
  subst hfile
  obtain ⟨c, rest, rfl⟩ := List.exists_cons_of_ne_nil hne
  have hmeasured : (hasMetrics && '/' :: c :: rest == "/metrics".toList) = false := by
    rw [beq_eq_false_iff_ne.mpr hmetrics, Bool.and_false]
  rw [route_eq hpath]
  unfold routeOf
  rw [if_neg hhealth, hmeasured, if_neg Bool.false_ne_true]
  simp only

/-- A file is found at a path of which it is the name, percent signs resolved. -/
theorem path_of_route {path name : List Char} (hpath : r.path? = some path)
    (hroute : r.route hasMetrics = .file (some name)) :
    ∃ file, path = '/' :: file ∧ utf8 name = percentDecode (utf8 file) := by
  have hrouted := (route_eq hpath).symm.trans hroute
  unfold routeOf at hrouted
  by_cases hhealth : path = "/health".toList
  · rw [if_pos hhealth] at hrouted
    cases hrouted
  · rw [if_neg hhealth] at hrouted
    cases hmeasured : hasMetrics && path == "/metrics".toList with
    | true =>
        rw [hmeasured, if_pos rfl] at hrouted
        cases hrouted
    | false =>
        rw [hmeasured, if_neg Bool.false_ne_true] at hrouted
        split at hrouted
        next c rest =>
          exact ⟨c :: rest, rfl, Text.ofUtf8?_eq_some_iff.mp (Route.file.inj hrouted)⟩
        next => cases hrouted

/-- The file that a target leads to has fewer bytes than the target names, unless the target is
literal. -/
theorem length_lt_of_not_isLiteral {name : List Char} (htarget : r.target.toList = '/' :: file)
    (hroute : r.route hasMetrics = .file (some name)) (hliteral : isLiteral ('/' :: file) = false) :
    (utf8 name).length < (utf8 file).length := by
  obtain ⟨_, hpath, hname⟩ := path_of_route (path?_of_target htarget) hroute
  obtain rfl := (List.cons.inj hpath).2
  rw [hname]
  obtain ⟨rest, hfile, hrest⟩ := beforeQuery_append file
  cases rest with
  | nil =>
      obtain ⟨hquery, hfragment⟩ := hrest rfl
      rw [beforeQuery_of_notMem hquery hfragment]
      refine Text.length_percentDecode_lt ?_
      rw [← Bool.not_eq_false]
      intro hescape
      rw [isLiteral_iff.mpr ⟨hquery, hfragment, hescape⟩] at hliteral
      cases hliteral
  | cons c rest =>
      have hbytes := congrArg (fun s => (utf8 s).length) hfile
      have hle := Text.length_percentDecode_le (utf8 (beforeQuery file))
      simp only [Text.utf8_append, Text.utf8_cons, List.length_append] at hbytes
      obtain ⟨b, tail, hwritten, _⟩ := Text.utf8Next_utf8Char c []
      rw [hwritten, List.length_cons] at hbytes
      omega

end Routes

/-! ## Names that are sent -/

/-- The escaped form of a name is a name without signs of its own. -/
theorem beforeQuery_escape (name : List Char) :
    beforeQuery (Url.escape escapedInName name) = Url.escape escapedInName name :=
  beforeQuery_of_notMem (Url.notMem_escape (by decide) (by decide) (by decide) name)
    (Url.notMem_escape (by decide) (by decide) (by decide) name)

/-- The escaped form of a name leads to the file of that name. -/
theorem route_of_escaped {r : Request} {hasMetrics : Bool} {name : List Char}
    (htarget : r.target.toList = '/' :: Url.escape escapedInName name)
    (hne : Url.escape escapedInName name ≠ [])
    (hhealth : r.target ≠ "/health") (hmetrics : r.target ≠ "/metrics") :
    r.route hasMetrics = .file (some name) := by
  have hpath := path?_of_target htarget
  rw [beforeQuery_escape] at hpath
  rw [route_of_path hpath rfl hne (htarget ▸ mt String.toList_inj.mp hhealth)
    (htarget ▸ mt String.toList_inj.mp hmetrics), Url.percentDecode_escape (by decide),
    Text.ofUtf8?_utf8]

/-- A literal target leads to the file that it names. -/
theorem route_of_isLiteral {r : Request} {hasMetrics : Bool} {file : List Char}
    (htarget : r.target.toList = '/' :: file) (hliteral : isLiteral ('/' :: file) = true)
    (hne : file ≠ []) (hhealth : r.target ≠ "/health") (hmetrics : r.target ≠ "/metrics") :
    r.route hasMetrics = .file (some file) := by
  obtain ⟨hquery, hfragment, hescape⟩ := isLiteral_iff.mp hliteral
  have hpath := path?_of_target htarget
  rw [beforeQuery_of_notMem hquery hfragment] at hpath
  rw [route_of_path hpath rfl hne (htarget ▸ mt String.toList_inj.mp hhealth)
    (htarget ▸ mt String.toList_inj.mp hmetrics), Text.percentDecode_of_not_hasEscape hescape,
    Text.ofUtf8?_utf8]

/-! ## Tags -/

theorem etag_notMem_serve {calendars : Calendars} {r : Request} {route : Route}
    (hmissing : ∀ file, route = .file (some file) → lookup calendars file = none)
    (value : String) : ("etag", value) ∉ (serve calendars r route).headers := by
  cases route with
  | nowhere | root => simp [serve, bare]
  | health | metrics => simp [serve, plain]
  | file name =>
      cases name with
      | none => simp [serve, plain]
      | some file => simp [serve, hmissing file rfl, bare]

/-- Only what is answered from a calendar has a tag. -/
theorem etag_notMem_respond {calendars : Calendars} {hasMetrics : Bool} {r : Request}
    (hmethod : r.method = "GET")
    (hmissing : ∀ file, r.route hasMetrics = .file (some file) → lookup calendars file = none)
    (value : String) : ("etag", value) ∉ (respond calendars hasMetrics r).headers := by
  have hserve := etag_notMem_serve (r := r) hmissing value
  simp only [respond, hmethod, beq_self_eq_true, Bool.true_or, Bool.not_true, Bool.and_false,
    List.mem_mergeSort, List.mem_append, not_or]
  refine ⟨⟨⟨?_, by simp⟩, ?_⟩, ?_⟩
  · simpa using hserve
  · split <;> simp
  · split
    · exact etag_not_mem_sharingHeaders r value
    · simp

end Almanac.Http
