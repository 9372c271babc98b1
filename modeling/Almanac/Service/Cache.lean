import Almanac.Service.Cycle

/-!
# Caches

The calendar that an output serves, and whether a refresh of it is under way. A
refresh marks the cache when it begins and takes the mark off when it ends; only a
refresh that succeeds changes the calendar.
-/

namespace Almanac.Service

open Merge (Merged MergeFailure)

/-- A calendar with the number of the merge that it came from. -/
structure Edition where
  number : Nat
  merged : Merged
deriving DecidableEq

/-- What an output serves. -/
structure Cache where
  current : Edition
  refreshing : Bool
deriving DecidableEq

namespace Cache

/-- The cache of a first calendar. -/
def ofEdition (e : Edition) : Cache := ⟨e, false⟩

/-- A refresh has begun. -/
def opened (c : Cache) : Cache := { c with refreshing := true }

/-- A refresh has ended; the calendar is replaced if there is a new one. -/
def closed (c : Cache) (number : Nat) : Except MergeFailure Merged → Cache
  | .ok m => ⟨⟨number, m⟩, false⟩
  | .error _ => { c with refreshing := false }

end Cache

end Almanac.Service
