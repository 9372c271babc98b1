import Almanac.Config.Basic

/-!
# Timetables

When the refreshes of an output are due. The first is due one interval after the
start. A refresh that begins on time makes the next one due one interval after its
own time; one that begins late makes the next one due one interval after the
moment at which it began.
-/

namespace Almanac.Service

/-- The last second that the clock can show. -/
def lastSecond : Nat := 0x7FFFFFFFFFFFFFFF

/-- The first due time after `now`; nothing if there is no interval or the clock does not reach that
far. -/
def firstDue? (now interval : Nat) : Option Nat :=
  if interval = 0 ∨ lastSecond < now + interval then none else some (now + interval)

/-- The due time after a refresh that was due at `due` and begins at `now`. It is that of a clock
which has one interval more before it. -/
def nextDue (due now interval : Nat) : Nat :=
  if due < now then now + interval else due + interval

end Almanac.Service
