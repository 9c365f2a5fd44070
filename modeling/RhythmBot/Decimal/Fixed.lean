import RhythmBot.Decimal.Binary
/-!
Decimal text with a fixed number of places, from the exact binary value.
-/

namespace RhythmBot.Decimal

/-- The quotient rounded to the nearest natural number, a half to the even one. -/
def roundQuotient (dividend divisor : Nat) : Nat :=
  let quotient := dividend / divisor
  let twice := 2 * (dividend % divisor)
  if twice < divisor then quotient
  else if divisor < twice then quotient + 1
  else quotient + quotient % 2

def roundScaled (scale mantissa : Nat) (exponent : Int) : Nat :=
  if 0 ≤ exponent then mantissa * Nat.pow 2 exponent.toNat * scale
  else roundQuotient (mantissa * scale) (Nat.pow 2 (-exponent).toNat)

def padded (width number : Nat) : String :=
  let digits := toString number
  String.ofList (List.replicate (width - digits.length) '0') ++ digits

def pointed (places units : Nat) : String :=
  if places = 0 then toString units
  else
    let scale := Nat.pow 10 places
    toString (units / scale) ++ "." ++ padded places (units % scale)

/-- A number with a fixed count of places: the exact value rounded to nearest, a half to even,
never with an exponent, and with the sign of a negative zero. -/
def fixed (places : Nat) (x : Float) : String :=
  match Binary.ofFloat x with
  | .nan => nanText
  | .infinite negative => infinityText negative
  | .finite negative mantissa exponent =>
    signText negative ++ pointed places (roundScaled (Nat.pow 10 places) mantissa exponent)

theorem roundQuotient_near (dividend divisor : Nat) (positive : 0 < divisor) :
    2 * dividend ≤ 2 * (divisor * roundQuotient dividend divisor) + divisor ∧
      2 * (divisor * roundQuotient dividend divisor) ≤ 2 * dividend + divisor := by
  have parts := Nat.div_add_mod dividend divisor
  have small := Nat.mod_lt dividend positive
  have next : divisor * (dividend / divisor + 1) = divisor * (dividend / divisor) + divisor := by
    rw [Nat.mul_add, Nat.mul_one]
  unfold roundQuotient
  simp only
  split
  · omega
  split
  · omega
  · rcases Nat.mod_two_eq_zero_or_one (dividend / divisor) with even | odd
    · rw [even, Nat.add_zero]; omega
    · rw [odd]; omega

end RhythmBot.Decimal
