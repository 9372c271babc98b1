import Almanac.Http.Conditional
import Almanac.Merge.Basic
import Almanac.Text.Percent

/-!
# Answering requests

Requests are answered from the calendars that are served at the moment. Each
calendar has a path of its own; there are two paths besides, one that tells that
the service is alive and one for its measurements. Answers may be used by pages of
any origin.
-/

namespace Almanac.Http

open Merge (Merged)

/-- A request. The target is a path, which may have a scheme and a host before it and a query behind
it. -/
structure Request where
  method : String
  target : String
  headers : List (String × String)

/-- An answer. -/
structure Response where
  status : Nat
  headers : List (String × String)
  body : String
deriving DecidableEq

/-- The first header of this name, given in lower case. -/
def Request.header? (r : Request) (name : String) : Option String :=
  (r.headers.find? fun h => h.1.toList.map Char.toLower == name.toList).map Prod.snd

/-- What follows the first colon that has two slashes behind it, without the slashes. -/
def afterScheme? : List Char → Option (List Char)
  | [] => none
  | ':' :: '/' :: '/' :: s => some s
  | _ :: s => afterScheme? s

/-- The text up to a query or a fragment. -/
def beforeQuery (s : List Char) : List Char := s.takeWhile fun c => c != '?' && c != '#'

/-- The path of the request, percent signs and all. A target that names a host has its path behind
the host, where a slash stands for none; any other target that does not begin with a slash has no
path. -/
def Request.path? (r : Request) : Option (List Char) :=
  match r.target.toList with
  | '/' :: s => some (beforeQuery ('/' :: s))
  | s => (afterScheme? s).map fun rest =>
    match (beforeQuery rest).dropWhile (· != '/') with
    | [] => ['/']
    | path => path

/-- The calendars that are served, by their names. -/
abbrev Calendars := Dictionary Merged

/-- The media type of a calendar. -/
def calendarType : String := "text/calendar; charset=utf-8"

/-- The media type of plain text. -/
def plainType : String := "text/plain; charset=utf-8"

/-- The number of bytes of a text. -/
def contentLength (body : String) : String := toString (Text.utf8 body.toList).length

/-- A header value holds no control characters besides tabs. -/
def isHeaderText (s : List Char) : Bool :=
  s.all fun c => c == '\t' || (0x20 ≤ c.toNat && c.toNat != 0x7F)

/-- A plain answer. -/
def plain (status : Nat) (body : String) : Response :=
  ⟨status, [("content-type", plainType)], body⟩

/-- An answer without a body. -/
def bare (status : Nat) : Response := ⟨status, [], ""⟩

/-- The name of the calendar that a file stands for. -/
def calendarKey? (file : List Char) : Option String :=
  (Text.dropSuffix? ".ics".toList file).map String.ofList

/-- The client has the current calendar already. -/
def isNotModified (r : Request) (merged : Merged) : Bool :=
  match r.header? "if-none-match" with
  | some field => isVisible field && coversTag field merged.etag
  | none => false

/-- The headers of a calendar. A file name that no header can hold is not given. -/
def calendarHeaders (file : List Char) (merged : Merged) : List (String × String) :=
  [("content-type", calendarType)] ++
    (if isHeaderText file then
      [("content-disposition", "attachment; filename=" ++ String.ofList file)] else []) ++
    [("etag", merged.etag)]

/-- The answer to a request for a calendar. -/
def calendarResponse (r : Request) (file : List Char) (merged : Merged) : Response :=
  if isNotModified r merged then ⟨304, calendarHeaders file merged, ""⟩
  else ⟨200, calendarHeaders file merged, merged.calendar⟩

/-- What a target leads to. -/
inductive Route where
  /-- The target has no path. -/
  | nowhere
  /-- The path is a slash alone, where nothing is. -/
  | root
  | health
  | metrics
  /-- Everything else; the name of the file has its percent signs resolved, or is no text. -/
  | file (name : Option (List Char))
deriving DecidableEq

/-- The route of a path. -/
def routeOf (hasMetrics : Bool) (path : List Char) : Route :=
  if path = "/health".toList then .health
  else if hasMetrics && path == "/metrics".toList then .metrics
  else
    match path with
    | '/' :: c :: rest => .file (Text.ofUtf8? (Text.percentDecode (Text.utf8 (c :: rest))))
    | _ => .root

/-- The route of a request. -/
def Request.route (r : Request) (hasMetrics : Bool) : Route :=
  match r.path? with
  | none => .nowhere
  | some path => routeOf hasMetrics path

/-- Something is at the end of the route that answers requests. -/
def Route.isKnown : Route → Bool
  | .nowhere | .root => false
  | .health | .metrics | .file _ => true

/-- Pages of any origin may use the answers of the route. The measurements, and where they have a
path also the places at which nothing is, are not meant for pages. -/
def Route.isShared (hasMetrics : Bool) : Route → Bool
  | .nowhere | .root => !hasMetrics
  | .metrics => false
  | .health | .file _ => true

/-- The answers of the route tell their length. -/
def Route.tellsLength : Route → Bool
  | .root => false
  | .nowhere | .health | .metrics | .file _ => true

/-- The calendar that a file stands for. -/
def lookup (calendars : Calendars) (file : List Char) : Option Merged :=
  (calendarKey? file).bind calendars.get?

/-- The answer of a route to a request that asks for something. -/
def serve (calendars : Calendars) (r : Request) : Route → Response
  | .nowhere | .root => bare 404
  | .health => plain 200 "ok"
  | .metrics => plain 200 ""
  | .file none => plain 400 "Invalid URL: Invalid UTF-8 in `file`"
  | .file (some file) =>
    match lookup calendars file with
    | some merged => calendarResponse r file merged
    | none => bare 404

/-- The header of this name, copied from the request under another name. -/
def echoed (r : Request) (asked name : String) : List (String × String) :=
  (r.header? asked).toList.map fun value => (name, value)

/-- The headers that let pages of any origin use an answer. -/
def sharingHeaders (r : Request) : List (String × String) :=
  echoed r "origin" "access-control-allow-origin" ++
    [("access-control-allow-credentials", "true"),
     ("vary", "origin, access-control-request-method, access-control-request-headers")]

/-- The answer to a request that asks what it may do: anything. -/
def preflight (r : Request) : Response :=
  ⟨200, echoed r "access-control-request-method" "access-control-allow-methods" ++
    echoed r "access-control-request-headers" "access-control-allow-headers", ""⟩

/-- The order of headers by name, then value. -/
def headerLe (a b : String × String) : Bool := a.1 < b.1 || (a.1 == b.1 && a.2 ≤ b.2)

/-- The answer to a request. Only the methods that read are allowed; the answer to one that asks for
headers only tells the length that the body would have. -/
def respond (calendars : Calendars) (hasMetrics : Bool) (r : Request) : Response :=
  let route := r.route hasMetrics
  let reads := r.method == "GET" || r.method == "HEAD"
  let inner :=
    if route.isShared hasMetrics && r.method == "OPTIONS" then preflight r
    else if reads || !route.isKnown then serve calendars r route
    else bare 405
  let allow := if route.isKnown && !reads then [("allow", "GET,HEAD")] else []
  let length := if route.tellsLength then [("content-length", contentLength inner.body)] else []
  let sharing := if route.isShared hasMetrics then sharingHeaders r else []
  ⟨inner.status, (inner.headers ++ allow ++ length ++ sharing).mergeSort headerLe,
    if r.method == "HEAD" then "" else inner.body⟩

/-- The calendar that a request is answered from, with the name of the file. -/
def served? (calendars : Calendars) (hasMetrics : Bool) (r : Request) :
    Option (List Char × Merged) :=
  if r.method == "GET" || r.method == "HEAD" then
    match r.route hasMetrics with
    | .file (some file) => (lookup calendars file).map fun merged => (file, merged)
    | _ => none
  else none

end Almanac.Http
