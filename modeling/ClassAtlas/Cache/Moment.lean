import ClassAtlas.Failure

/-!
Moments in time, counted in whole seconds with 53 binary digits.

A number that needs more digits is rounded to the nearest one that does not, and a number halfway
between two of them to the one whose last digit is even. Beyond 1024 binary digits nothing is counted.
-/

namespace ClassAtlas.Moment

/-- The binary digits that are kept. -/
def precision : Nat := 53

/-- The binary digits of the largest moments. -/
def maxDigits : Nat := 1024

/-- The binary digits of a number. -/
def digits (value : Nat) : Nat := if value = 0 then 0 else Nat.log2 value + 1

/-- The nearest number whose last digits, as many as given, are zero; a tie goes to the number whose
last kept digit is even. -/
def roundedOff (dropped value : Nat) : Nat :=
  let kept := value >>> dropped
  let rest := value - (kept <<< dropped)
  let half := (1 <<< dropped) / 2
  if half < rest || (half == rest && kept % 2 == 1) then (kept + 1) <<< dropped
  else kept <<< dropped

/-- The nearest number with as many digits as are kept. -/
def nearestNat (value : Nat) : Nat :=
  if digits value ≤ precision then value else roundedOff (digits value - precision) value

/-- The nearest number with as many digits as are kept, on either side of zero. -/
def nearest : Int → Int
  | .ofNat value => .ofNat (nearestNat value)
  | .negSucc value => -(nearestNat (value + 1) : Int)

/-- A number of seconds as it is counted. -/
def seconds (value : Int) : Except Fault Int :=
  let counted := nearest value
  if digits counted.natAbs > maxDigits then .error .numberTooLarge else .ok counted

/-- The moment a number of seconds after another moment. -/
def after (now value : Int) : Except Fault Int := do return nearest (now + (← seconds value))

/-- Numbers of at most 53 binary digits are counted exactly. -/
theorem nearest_eq {value : Int} (fits : digits value.natAbs ≤ precision) : nearest value = value := by
  cases value with
  | ofNat value => simp only [nearest, nearestNat, if_pos (show digits value ≤ precision from fits)]
  | negSucc value =>
    rw [nearest, nearestNat, if_pos (show digits (value + 1) ≤ precision from fits)]
    rfl

/-- So are moments, if neither they nor the seconds up to them have more digits. -/
theorem after_eq {now value : Int} (fits : digits value.natAbs ≤ precision)
    (sumFits : digits (now + value).natAbs ≤ precision) : after now value = .ok (now + value) := by
  have counted : seconds value = .ok value := by
    rw [seconds, nearest_eq fits, if_neg (Nat.not_lt.mpr (Nat.le_trans fits (by decide)))]
  rw [after, counted]
  show Except.ok (nearest (now + value)) = _
  rw [nearest_eq sumFits]

end ClassAtlas.Moment
