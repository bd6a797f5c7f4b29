/-!
# Time

Instants and durations are natural numbers of microseconds; an instant counts from some moment that
never matters, since only differences and comparisons are used.

There is always a later instant here.  The clock of a system counts nanoseconds and ends: close to
its last instant adding a delay overflows, which stops a program, while here the sum is an instant
like any other.  What is proved about deadlines is about clocks that are far enough from their end.
-/

set_option autoImplicit false

namespace Proofreader

/-- Microseconds after some fixed moment. -/
abbrev Instant := Nat

/-- Microseconds. -/
abbrev Duration := Nat

/-- A number of milliseconds. -/
def Duration.ofMillis (millis : Nat) : Duration := 1000 * millis

/-- How many milliseconds pass before a check where nothing is said. -/
def defaultDelayMillis : Nat := 150

/-- How long to wait before a check where nothing is said. -/
def defaultDelay : Duration := .ofMillis defaultDelayMillis

/-- A fraction of `10^places` without the zeros at its end. -/
def fractionDigits (places fraction : Nat) : List Char :=
  let digits := (toString fraction).toList
  let padded := List.replicate (places - digits.length) '0' ++ digits
  (padded.reverse.dropWhile (· == '0')).reverse

/-- The text of a duration of milliseconds: in seconds from one second on, else in milliseconds, and
zero in nanoseconds. -/
def millisText (millis : Nat) : String :=
  if millis == 0 then "0ns"
  else if millis < 1000 then toString millis ++ "ms"
  else
    let fraction := fractionDigits 3 (millis % 1000)
    let point := if fraction.isEmpty then "" else "."
    toString (millis / 1000) ++ point ++ String.ofList fraction ++ "s"

end Proofreader
