import Almanac.Calendar.Date

/-!
# Watermarks

The highest day, month and year on which a check has fired so far, while the
events of one feed are visited in order. A check fires only above its own mark
and raises it.
-/

namespace Almanac.Filter

/-- Day of the month, month and year that were last fired on. -/
structure Watermark where
  day : Option Nat
  month : Option Nat
  year : Option Int
deriving DecidableEq

namespace Watermark

/-- No check has fired. -/
def empty : Watermark := ⟨none, none, none⟩

instance : EmptyCollection Watermark := ⟨empty⟩

end Watermark

/-- The number lies above the mark; any number lies above no mark. -/
def isAbove {α : Type} [LT α] [DecidableRel (fun a b : α => a < b)] (mark : Option α) (n : α) :
    Bool :=
  match mark with
  | none => true
  | some m => decide (m < n)

/-- The mark after a number has been seen: the number if it lies above the mark. -/
def raise {α : Type} [LT α] [DecidableRel (fun a b : α => a < b)] (mark : Option α) (n : α) :
    Option α :=
  if isAbove mark n then some n else mark

end Almanac.Filter
