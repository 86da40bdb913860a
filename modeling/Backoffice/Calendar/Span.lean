import Backoffice.Calendar.Moment
import Backoffice.Failure

/-!
# Spans of time

Adding a span to a time.  A span has a largest length of its own, and the sum has to lie in the
calendar.
-/

namespace Backoffice

/-- The most days that a span of time can have. -/
def maxSpanDays : Int := 999999999

/-- The microseconds of some seconds. -/
def secondsSpan (seconds : Int) : Int :=
  seconds * secondMicros

/-- The microseconds of a floating-point number of seconds.  The fraction of a second is counted in
microseconds by floating-point arithmetic and then rounded, a half to the even neighbour. -/
def fractionalSpan (x : Binary64) : Int :=
  match x.ratio? with
  | none => 0
  | some (negative, num, den) =>
    let rest := match (Binary64.ofRatio false (num % den * secondMicros) den).ratio? with
      | some (_, n, d) => roundHalfEven n d
      | none => 0
    let micros : Int := (num / den * secondMicros + rest : Nat)
    if negative then -micros else micros

/-- The microseconds of some hours. -/
def hoursSpan (hours : Int) : Int :=
  secondsSpan (hours * 3600)

namespace WallTime

/-- The time after a span of microseconds. -/
def after (t : WallTime) (span : Int) : Except Overflow WallTime :=
  let days := Int.fdiv span dayMicros
  if maxSpanDays < days ∨ days < -maxSpanDays then .error (.span days)
  else
    match t.add? span with
    | some later => .ok later
    | none => .error .date

end WallTime

end Backoffice
