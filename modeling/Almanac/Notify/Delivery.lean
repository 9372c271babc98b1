import Almanac.Config.Basic
import Almanac.Http.Status
import Almanac.Json.Writer

/-!
# Delivering a message

A message is posted to the address of a service. One of the services is asked
again after a failure, each time after twice the wait, up to a number of attempts
that is set beforehand and lies between one and eight; the other is asked once.
-/

namespace Almanac.Notify

open Config (Channel)

/-- What comes back from an attempt. -/
inductive Reply where
  | status (code : Nat)
  /-- The connection ended without an answer. -/
  | dropped
deriving DecidableEq

/-- The attempt has succeeded: there is an answer, and it blames neither side. -/
def Reply.isAccepted : Reply → Bool
  | .status code => !(400 ≤ code && code < 600)
  | .dropped => false

/-- A message on its way to an address. -/
structure Post where
  address : String
  body : String
deriving DecidableEq

/-- The media type of a body. -/
def Post.contentType : String := "application/json"

/-- The name under which messages are shown. -/
def sender : String := "iCal Merger Service"

/-- The body of a message for a service. -/
def payload (message : String) : Channel → String
  | .slack => Json.write (.mapping [("text", .string message)] .closed)
  | .discord | .none =>
    Json.write (.mapping [("content", .string message), ("username", .string sender)] .closed)

/-- The greatest number of attempts. -/
def mostAttempts : UInt8 := 8

/-- The number of attempts if nothing is set. -/
def usualAttempts : UInt8 := 3

/-- The number of attempts for a setting. -/
def attemptsOf (setting : UInt8) : UInt8 := max 1 (min setting mostAttempts)

/-- The milliseconds to wait after a failed attempt, counted from one. -/
def backoff (attempt : UInt8) : UInt64 := 500 <<< (attempt - 1).toUInt64

/-- What happened to a message: what was posted, the waits between, and the reply that ended it. -/
structure Delivery where
  posts : List Post
  waits : List UInt64
  final : Reply
deriving DecidableEq

/-- The delivery has succeeded. -/
def Delivery.isAccepted (d : Delivery) : Bool := d.final.isAccepted

/-- Attempts number `attempt` and later, of which `left` may fail before the last. Replies are
counted from one. -/
def deliverFrom (post : Post) (replies : Nat → Reply) : (left : Nat) → (attempt : UInt8) → Delivery
  | 0, attempt => ⟨[post], [], replies attempt.toNat⟩
  | left + 1, attempt =>
    if (replies attempt.toNat).isAccepted then ⟨[post], [], replies attempt.toNat⟩
    else
      let d := deliverFrom post replies left (attempt + 1)
      ⟨post :: d.posts, backoff attempt :: d.waits, d.final⟩

/-- Delivers with up to `attempts` attempts. -/
def deliver (post : Post) (attempts : UInt8) (replies : Nat → Reply) : Delivery :=
  deliverFrom post replies (attempts.toNat - 1) 1

/-- Sends a message by way of a service. -/
def send (service : Channel) (address message : String) (attempts : UInt8)
    (replies : Nat → Reply) : Delivery :=
  let post : Post := ⟨address, payload message service⟩
  match service with
  | .discord | .none => deliver post attempts replies
  | .slack => deliver post 1 replies

/-- The wording of a reply that is a failure; `shown` is the address as it was used. -/
def Reply.fault (shown : String) : Reply → String
  | .dropped => "error sending request for url (" ++ shown ++ ")"
  | .status code =>
    (if code < 500 then "HTTP status client error (" else "HTTP status server error (") ++
      Http.statusLine code ++ ") for url (" ++ shown ++ ")"

/-- The wording of a failed delivery. -/
def failureMessage (service : Channel) (shown : String) (r : Reply) : String :=
  match service, r with
  | .slack, .dropped => "slack post"
  | .slack, .status _ => "slack non-2xx"
  | _, .dropped => "Discord webhook request failed: " ++ r.fault shown
  | _, .status _ => "Discord webhook HTTP error: " ++ r.fault shown

end Almanac.Notify
