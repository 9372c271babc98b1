import Almanac.Http.MediaType
import Almanac.Http.Status
import Almanac.Text.Charset
import Almanac.Url.Target

/-!
# Fetching

A body is asked of a host. The host may refer to another place instead; such
references are followed up to a number of times. All of it has to be done within a
time.
-/

namespace Almanac.Http

open Url (Destination Target)

/-- What a host says. -/
structure Reply where
  status : Nat
  headers : List (String × String)
  body : List UInt8
  /-- The length of the body that is announced; without it the real one. -/
  announced : Option Nat
  /-- The milliseconds that the reply takes. -/
  delay : Nat
  /-- The connection ends without an answer. -/
  dropped : Bool

namespace Reply

/-- The first header of a name in lower case. -/
def header? (r : Reply) (name : String) : Option String :=
  (r.headers.find? fun h => h.1.toList.map Char.toLower == name.toList).map Prod.snd

/-- The reply may have no body. -/
def isBodiless (r : Reply) : Bool := r.status == 204 || r.status == 304

/-- The body as it arrives; nothing if it ends before its announced length. -/
def body? (r : Reply) : Option (List UInt8) :=
  if r.isBodiless then some []
  else
    match r.announced with
    | none => some r.body
    | some n => if r.body.length < n then none else some (r.body.take n)

/-- The place that the reply refers to, if its status asks to follow. -/
def reference? (r : Reply) : Option String :=
  if r.status ∈ [301, 302, 303, 307, 308] then r.header? "location" else none

/-- The text of a body that has arrived. -/
def text (r : Reply) (body : List UInt8) : String :=
  String.ofList (Text.readBody ((r.header? "content-type").bind charsetName?) body)

end Reply

/-- Why there is no body. -/
inductive FetchFault where
  /-- The host has answered with a status other than success. -/
  | status (code : Nat)
  /-- There is no answer, or not all of it, or it came too late, or it referred on too often. -/
  | transport
deriving DecidableEq

/-- The greatest number of references that are followed. -/
def mostReferences : Nat := 10

/-- The result of a reply that is not followed. -/
def conclude (r : Reply) : Except FetchFault String :=
  if isSuccess r.status then
    match r.body? with
    | some body => .ok (r.text body)
    | none => .error .transport
  else .error (.status r.status)

/-- Asks for a target of the host with address `origin`, and follows up to `left` references. The
targets that were asked for come with the result. -/
def fetchFrom (origin : String) (ask : Target → Reply) :
    (left time : Nat) → Target → List Target × Except FetchFault String
  | left, time, t =>
    let r := ask t
    if r.dropped || time ≤ r.delay then ([t], .error .transport)
    else
      match r.reference?.bind (t.follow? origin) with
      | none => ([t], conclude r)
      | some .elsewhere => ([t], .error .transport)
      | some (.here next) =>
        match left with
        | 0 => ([t], .error .transport)
        | left + 1 =>
          let (asked, result) := fetchFrom origin ask left (time - r.delay) next
          (t :: asked, result)

/-- Fetches a target within some milliseconds. -/
def fetch (origin : String) (ask : Target → Reply) (time : Nat) (t : Target) :
    List Target × Except FetchFault String :=
  fetchFrom origin ask mostReferences time t

/-- The name that requests are made under. -/
def userAgent : String := "ical-merger/0.1.0"

end Almanac.Http
