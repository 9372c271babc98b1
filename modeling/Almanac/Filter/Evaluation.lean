import Almanac.Config.Basic
import Almanac.Filter.Watermark
import Almanac.Text.Affix

/-!
# Rules

A rule is evaluated against one event and the watermark of its feed. A comparing
rule reads a property of the event and leaves the watermark alone; a date rule
reads the start date and fires above the watermark. Where the event lacks what
the rule reads, evaluation fails, and for the filter a failure counts as a miss.
-/

namespace Almanac.Filter

open Config (Check Rule)
open Calendar (Component Date)

/-- Why a rule could not be evaluated. -/
inductive EvaluationError where
  | missingField (field : String)
  | noStartTime
deriving DecidableEq

/-- The wording of a reason. -/
def EvaluationError.message : EvaluationError → String
  | .missingField field => "event has no `" ++ field ++ "` property"
  | .noStartTime => "event has no start time"

/-- The property that the rule reads, as it enters the comparison. -/
def fieldText (rule : Rule) (event : Component) : Except EvaluationError String :=
  match event.value? rule.field with
  | some value => .ok (rule.transform value)
  | none => .error (.missingField rule.field)

/-- The property contains one of the values. -/
def containsAny (rule : Rule) (event : Component) : Except EvaluationError Bool := do
  let text ← fieldText rule event
  return rule.values.any fun v => Text.hasInfix (rule.transform v).toList text.toList

/-- The property equals one of the values. -/
def equalsAny (rule : Rule) (event : Component) : Except EvaluationError Bool := do
  let text ← fieldText rule event
  return rule.values.any fun v => text == rule.transform v

/-- The start date of the event. -/
def startDay (event : Component) : Except EvaluationError Date :=
  match event.startDay? with
  | some date => .ok date
  | none => .error .noStartTime

/-- Whether the rule hits, and the watermark afterwards. -/
def evaluate (rule : Rule) (event : Component) (w : Watermark) :
    Except EvaluationError (Bool × Watermark) :=
  match rule.check with
  | .contains => return (← containsAny rule event, w)
  | .notContains => return (!(← containsAny rule event), w)
  | .equals => return (← equalsAny rule event, w)
  | .notEquals => return (!(← equalsAny rule event), w)
  | .firstOfDay => do
    let date ← startDay event
    return (isAbove w.day date.day, { w with day := raise w.day date.day })
  | .firstOfMonth => do
    let date ← startDay event
    return (isAbove w.month date.month, { w with month := raise w.month date.month })
  | .firstOfYear => do
    let date ← startDay event
    return (isAbove w.year date.year, { w with year := raise w.year date.year })

/-- Whether the rule hits, and the watermark afterwards; a failure is a miss that leaves the
watermark alone. -/
def hits (rule : Rule) (event : Component) (w : Watermark) : Bool × Watermark :=
  match evaluate rule event w with
  | .ok r => r
  | .error _ => (false, w)

/-- Whether some rule hits. The rules are tried in order up to the first that does. -/
def anyHits : List Rule → Component → Watermark → Bool × Watermark
  | [], _, w => (false, w)
  | rule :: rules, event, w =>
    match hits rule event w with
    | (true, w) => (true, w)
    | (false, w) => anyHits rules event w

/-- Whether all rules hit. The rules are tried in order up to the first that does not. -/
def allHit : List Rule → Component → Watermark → Bool × Watermark
  | [], _, w => (true, w)
  | rule :: rules, event, w =>
    match hits rule event w with
    | (true, w) => allHit rules event w
    | (false, w) => (false, w)

/-- Whether an event is kept: there are no rules, or one of them hits. -/
def keeps (rules : List Rule) (event : Component) (w : Watermark) : Bool × Watermark :=
  if rules.isEmpty then (true, w) else anyHits rules event w

end Almanac.Filter
