/-
# Spans of time

The text of a span that is a whole number of milliseconds: in seconds from one second on, with as
many places as it needs, and else in milliseconds; no time at all is shown in nanoseconds.
-/

namespace TenantFleet.Span

/-- The digits of a fraction without the zeros at its end. -/
def trimZeros (digits : List Char) : List Char :=
  (digits.reverse.dropWhile (· = '0')).reverse

/-- A number of thousandths below one, as three digits. -/
def thousandths (n : Nat) : List Char :=
  [Nat.digitChar (n / 100), Nat.digitChar (n / 10 % 10), Nat.digitChar (n % 10)]

/-- The text of a span of the given number of milliseconds. -/
def text (milliseconds : Nat) : String :=
  if milliseconds = 0 then "0ns"
  else if milliseconds < 1000 then toString milliseconds ++ "ms"
  else
    match trimZeros (thousandths (milliseconds % 1000)) with
    | [] => toString (milliseconds / 1000) ++ "s"
    | places => toString (milliseconds / 1000) ++ "." ++ String.ofList places ++ "s"

end TenantFleet.Span
