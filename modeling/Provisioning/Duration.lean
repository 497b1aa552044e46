/-!
# Durations

Spans of time and instants in whole nanoseconds, and the text of a span in a message.  An instant is
kept by a clock that counts seconds in 63 bits, so a deadline too far ahead cannot be formed.
-/

namespace Provisioning

/-- A span of time in nanoseconds. -/
structure Duration where
  nanoseconds : Nat
  deriving DecidableEq, Repr, Inhabited

namespace Duration

def ofMilliseconds (milliseconds : Nat) : Duration :=
  ⟨milliseconds * 1000000⟩

def ofSeconds (seconds : Nat) : Duration :=
  ⟨seconds * 1000000000⟩

def seconds (duration : Duration) : Nat :=
  duration.nanoseconds / 1000000000

instance : LE Duration := ⟨fun left right => left.nanoseconds ≤ right.nanoseconds⟩

instance : LT Duration := ⟨fun left right => left.nanoseconds < right.nanoseconds⟩

instance (left right : Duration) : Decidable (left ≤ right) :=
  inferInstanceAs (Decidable (left.nanoseconds ≤ right.nanoseconds))

instance (left right : Duration) : Decidable (left < right) :=
  inferInstanceAs (Decidable (left.nanoseconds < right.nanoseconds))

instance : Add Duration := ⟨fun left right => ⟨left.nanoseconds + right.nanoseconds⟩⟩

instance : Sub Duration := ⟨fun left right => ⟨left.nanoseconds - right.nanoseconds⟩⟩

/-- A count of units with the exact rest behind a point, trailing zeros dropped. -/
def decimalText (nanoseconds unit width : Nat) : String :=
  let rest := Nat.toDigits 10 (nanoseconds % unit)
  let padded := List.replicate (width - rest.length) '0' ++ rest
  let places := (padded.reverse.dropWhile (· == '0')).reverse
  toString (nanoseconds / unit) ++
    (if places.isEmpty then "" else String.ofList ('.' :: places))

/-- The span in the largest unit of which it holds at least one. -/
def text (duration : Duration) : String :=
  let nanoseconds := duration.nanoseconds
  if 1000000000 ≤ nanoseconds then decimalText nanoseconds 1000000000 9 ++ "s"
  else if 1000000 ≤ nanoseconds then decimalText nanoseconds 1000000 6 ++ "ms"
  else if 1000 ≤ nanoseconds then decimalText nanoseconds 1000 3 ++ "µs"
  else toString nanoseconds ++ "ns"

end Duration

end Provisioning
