import RhythmBot.Decimal.Binary
/-!
The shortest decimal that reads back as the same double-precision number, and its text without
exponent.
-/

namespace RhythmBot.Decimal

/-- A decimal value: `digits` times ten to the power `exponent`. -/
structure Scaled where
  digits : Nat
  exponent : Int
  deriving Repr, DecidableEq

inductive Tie where
  | up
  | even
  deriving Repr, DecidableEq

/-- The interval of values that read back as a positive number, in quarters of its unit: its lower
end, its upper end, and whether the ends belong to it. -/
structure Interval where
  lower : Nat
  upper : Nat
  closed : Bool
  deriving Repr, DecidableEq

/-- The values nearer to a number than to its neighbours. Below a power of two the neighbours are
twice as dense, unless the number is subnormal. -/
def Interval.around (mantissa : Nat) (exponent : Int) : Interval where
  lower :=
    if mantissa = leastNormal ∧ leastExponent < exponent then 4 * mantissa - 1
    else 4 * mantissa - 2
  upper := 4 * mantissa + 2
  closed := mantissa % 2 == 0

/-- Both sides of a comparison of `count · 10^tens` with `quarters · 2^twos`, brought to whole
numbers. -/
def balanced (count : Nat) (tens : Int) (quarters : Nat) (twos : Int) : Nat × Nat :=
  (count * Nat.pow 10 tens.toNat * Nat.pow 2 (-twos).toNat,
    quarters * Nat.pow 2 twos.toNat * Nat.pow 10 (-tens).toNat)

/-- Whether `count · 10^tens` lies in an interval of unit `2^exponent`. -/
def Interval.holds (interval : Interval) (exponent : Int) (count : Nat) (tens : Int) : Bool :=
  let (left, low) := balanced count tens interval.lower (exponent - 2)
  let (_, high) := balanced count tens interval.upper (exponent - 2)
  if interval.closed then low ≤ left && left ≤ high else low < left && left < high

def gridPoint? (tie : Tie) (mantissa : Nat) (exponent : Int) (tens : Int) : Option Nat :=
  let interval := Interval.around mantissa exponent
  let value := mantissa * Nat.pow 2 exponent.toNat * Nat.pow 10 (-tens).toNat
  let spacing := Nat.pow 10 tens.toNat * Nat.pow 2 (-exponent).toNat
  let below := value / spacing
  let above := below + 1
  let belowHolds := below != 0 && interval.holds exponent below tens
  let aboveHolds := interval.holds exponent above tens
  let twice := 2 * (value % spacing)
  let preferAbove : Bool :=
    if twice = spacing then (match tie with | .up => true | .even => below % 2 == 1)
    else decide (spacing < twice)
  if belowHolds && aboveHolds then some (if preferAbove then above else below)
  else if belowHolds then some below
  else if aboveHolds then some above
  else none

def digitCount (n : Nat) : Nat :=
  (toString n).length

/-- The power of ten of the leading digit of a positive value. Below one it is the negated count of
digits of the whole part of what the inverse just exceeds. -/
def leadingExponent (mantissa : Nat) (exponent : Int) : Int :=
  let dividend := mantissa * Nat.pow 2 exponent.toNat
  let divisor := Nat.pow 2 (-exponent).toNat
  if divisor ≤ dividend then (digitCount (dividend / divisor) : Int) - 1
  else -(digitCount ((divisor - 1) / dividend) : Int)

def Scaled.trimmed (fuel : Nat) (value : Scaled) : Scaled :=
  match fuel with
  | 0 => value
  | fuel + 1 =>
    if value.digits ≠ 0 ∧ value.digits % 10 = 0 then
      Scaled.trimmed fuel ⟨value.digits / 10, value.exponent + 1⟩
    else value

/-- The decimal with the fewest digits that reads back as a positive number, and of those the
nearest. Seventeen digits always suffice. -/
def shortestFrom (tie : Tie) (mantissa : Nat) (exponent : Int) (leading : Int) : List Nat → Scaled
  | [] => ⟨mantissa, 0⟩
  | count :: more =>
    let tens := leading + 1 - count
    match gridPoint? tie mantissa exponent tens with
    | some digits => Scaled.trimmed 20 ⟨digits, tens⟩
    | none => shortestFrom tie mantissa exponent leading more

def shortestSize (tie : Tie) (mantissa : Nat) (exponent : Int) : Scaled :=
  if mantissa = 0 then ⟨0, 0⟩
  else
    shortestFrom tie mantissa exponent (leadingExponent mantissa exponent)
      ((List.range 17).map (· + 1))

def zeros (count : Nat) : String :=
  String.ofList (List.replicate count '0')

def Scaled.positional (value : Scaled) : String :=
  let digits := toString value.digits
  if 0 ≤ value.exponent then digits ++ zeros value.exponent.toNat
  else
    let places := (-value.exponent).toNat
    if places < digits.length then
      String.ofList (digits.toList.take (digits.length - places)) ++ "." ++
        String.ofList (digits.toList.drop (digits.length - places))
    else "0." ++ zeros (places - digits.length) ++ digits

def plain (x : Float) : String :=
  match Binary.ofFloat x with
  | .nan => nanText
  | .infinite negative => infinityText negative
  | .finite negative mantissa exponent =>
    signText negative ++ (shortestSize .up mantissa exponent).positional

end RhythmBot.Decimal
