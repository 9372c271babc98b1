import Almanac.Calendar.Reader
import Almanac.Calendar.Writer
import Almanac.Digest.Sha256
import Almanac.Filter.Pass
import Almanac.Http.Status
import Almanac.Text.Hex
import Almanac.Text.Utf8

/-!
# Merging

The feeds of an output are fetched in order, up to the first that fails. If none
fails, each feed's events are filtered on their own, and what is kept is written
as one calendar, feed after feed.
-/

namespace Almanac.Merge

open Calendar (Component Issue)
open Config (Feed Output)

/-- Why a feed gives no events. -/
inductive FeedError where
  | status (code : Nat)
  | transport
  | parse (e : Calendar.ReadError)
deriving DecidableEq

/-- The wording of a reason. -/
def FeedError.message : FeedError → String
  | .status code => "upstream answered " ++ Http.statusLine code
  | .transport => "request failed"
  | .parse e => "malformed calendar: " ++ e.message

/-- What fetching a feed gives. -/
abbrev Outcome := Except FeedError (List Component)

/-- The feed that stopped a merge, and why. -/
structure MergeFailure where
  feed : String
  cause : FeedError
deriving DecidableEq

/-- The wording of a failure. -/
def MergeFailure.message (e : MergeFailure) : String :=
  "error loading " ++ e.feed ++ ": " ++ e.cause.message

/-- A feed with the events that were fetched for it. -/
structure Loaded where
  feed : Feed
  events : List Component

/-- The events of a feed that are kept, as its modifiers leave them. -/
def Loaded.kept (l : Loaded) : List Component := Filter.pass l.feed l.events

/-- A finished calendar. -/
structure Merged where
  calendar : String
  description : String
  eventCount : Nat
  etag : String
deriving DecidableEq

/-- The tag of a text: the first half of its digest, in quotation marks. -/
def etagOf (calendar : String) : String :=
  String.ofList
    ('"' :: Text.hexBytes ((Digest.Sha256.digest (Text.utf8 calendar.toList)).take 16) ++ ['"'])

/-- The names of the feeds with spaces between them. -/
def describe (loaded : List Loaded) : String := " ".intercalate (loaded.map (·.feed.name))

/-- The calendar of an output whose feeds have all been fetched. -/
def assemble (issue : Issue) (o : Output) (loaded : List Loaded) : Merged :=
  let events := loaded.flatMap Loaded.kept
  let calendar := Calendar.write issue o.name (describe loaded) events
  ⟨calendar, describe loaded, events.length, etagOf calendar⟩

/-- Fetches feeds in order up to the first that fails. -/
def loadAll (fetch : Feed → Outcome) : List Feed → Except MergeFailure (List Loaded)
  | [] => .ok []
  | feed :: feeds =>
    match fetch feed with
    | .error e => .error ⟨feed.name, e⟩
    | .ok events =>
      match loadAll fetch feeds with
      | .error e => .error e
      | .ok loaded => .ok (⟨feed, events⟩ :: loaded)

/-- The merge of an output whose feeds are all at hand. -/
def merge (issue : Issue) (fetch : Feed → Outcome) (o : Output) : Except MergeFailure Merged :=
  match loadAll fetch o.feeds with
  | .error e => .error e
  | .ok loaded => .ok (assemble issue o loaded)

/-- A message under the name of its output. -/
def tag (o : Output) (message : String) : String := "[" ++ o.name ++ "] " ++ message

end Almanac.Merge
