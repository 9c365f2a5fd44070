import RhythmBot.Decimal.Shortest
/-!
Number literals of a JSON text: their written form, the value they denote, and the literal written
for a value. The value keeps the leading digits that fit in 64 bits and scales them by one power of
ten, so a long literal may miss the nearest double by a little.
-/

namespace RhythmBot.Json

open RhythmBot.Decimal

/-- A number as it is written: decimal digits, most significant first. -/
structure Literal where
  negative : Bool
  whole : List Nat
  fraction : List Nat
  exponent : Option (Bool × List Nat)
  deriving Repr, DecidableEq

/-- What a literal denotes: a natural number of 64 bits, the negation of a positive one, or a
double-precision number. -/
inductive Number where
  | natural (n : Nat)
  | negated (n : Nat)
  | real (x : Float)
  deriving Repr

def largestWord : Nat := 0xffffffffffffffff

def largestHalf : Nat := 0xffffffff

/-- Appends digits to a number for as long as it keeps to 64 bits; gives the digits left over. -/
def takeDigits (value : Nat) : List Nat → Nat × List Nat
  | [] => (value, [])
  | digit :: rest =>
    if 10 * value + digit ≤ largestWord then takeDigits (10 * value + digit) rest
    else (value, digit :: rest)

def spelled (digits : List Nat) : Nat :=
  digits.foldl (fun value digit => 10 * value + digit) 0

def powerOfTen (n : Nat) : Float :=
  Float.ofScientific 1 false n

/-- Multiplies by a power of ten in one step up to the 308th, and downwards first in steps of that
size. Too large a result has no value. Three steps bring any 64-bit number to zero. -/
def scaleByTen (steps : Nat) (x : Float) (power : Int) : Option Float :=
  if power.natAbs ≤ 308 then
    if 0 ≤ power then
      let scaled := x * powerOfTen power.toNat
      if scaled.isInf then none else some scaled
    else some (x / powerOfTen power.natAbs)
  else if x == 0 then some x
  else if 0 ≤ power then none
  else
    match steps with
    | 0 => some x
    | steps + 1 => scaleByTen steps (x / powerOfTen 308) (power + 308)

/-- The largest written exponent that is added up; beyond it the number is zero or too large. -/
def largestExponent : Nat := 0x7fffffff

def scaledSize (significand : Nat) (power : Int) : Option (Bool × List Nat) → Option Float
  | none => scaleByTen 8 significand.toUInt64.toFloat power
  | some (down, digits) =>
    let written := spelled digits
    if written ≤ largestExponent then
      scaleByTen 8 significand.toUInt64.toFloat (if down then power - written else power + written)
    else if significand ≠ 0 ∧ !down then none
    else some 0

def Literal.value? (literal : Literal) : Option Number :=
  let (wholeValue, dropped) := takeDigits 0 literal.whole
  if dropped.isEmpty && literal.fraction.isEmpty && literal.exponent.isNone then
    if literal.negative then
      if 1 ≤ wholeValue ∧ wholeValue ≤ 0x8000000000000000 then some (.negated wholeValue)
      else some (.real (-wholeValue.toUInt64.toFloat))
    else some (.natural wholeValue)
  else
    let (significand, ignored) := takeDigits wholeValue literal.fraction
    let power : Int := dropped.length - (literal.fraction.length - ignored.length : Nat)
    (scaledSize significand power literal.exponent).map fun size =>
      .real (if literal.negative then -size else size)

def digitsOf (n : Nat) : List Nat :=
  (toString n).toList.map fun c => c.toNat - 48

def Literal.ofNat (n : Nat) : Literal := ⟨false, digitsOf n, [], none⟩

def Literal.ofInt (n : Int) : Literal := ⟨n < 0, digitsOf n.natAbs, [], none⟩

/-- The digits of a finite number laid out: positional from `1e-5` to below `1e16` with at least one
place, scientific outside. -/
def Literal.ofScaled (negative : Bool) (value : Scaled) : Literal :=
  let digits := digitsOf value.digits
  let point := value.exponent + digits.length
  if 0 ≤ value.exponent ∧ point ≤ 16 then
    ⟨negative, digits ++ List.replicate value.exponent.toNat 0, [0], none⟩
  else if 0 < point ∧ point ≤ 16 then
    ⟨negative, digits.take point.toNat, digits.drop point.toNat, none⟩
  else if -5 < point ∧ point ≤ 0 then
    ⟨negative, [0], List.replicate (-point).toNat 0 ++ digits, none⟩
  else
    ⟨negative, digits.take 1, digits.drop 1, some (point - 1 < 0, digitsOf (point - 1).natAbs)⟩

/-- The literal of a finite number, with the fewest digits that read back. The infinities and the
value that is no number have none. -/
def Literal.ofFloat? (x : Float) : Option Literal :=
  match Binary.ofFloat x with
  | .nan => none
  | .infinite _ => none
  | .finite negative mantissa exponent =>
    some (Literal.ofScaled negative (shortestSize .even mantissa exponent))

def digitChars (digits : List Nat) : List Char :=
  digits.map fun digit => Char.ofNat (digit + 48)

def Literal.chars (literal : Literal) : List Char :=
  (if literal.negative then ['-'] else []) ++ digitChars literal.whole ++
    (if literal.fraction.isEmpty then [] else '.' :: digitChars literal.fraction) ++
    match literal.exponent with
    | none => []
    | some (down, digits) => 'e' :: (if down then ['-'] else []) ++ digitChars digits

def Number.text : Number → String
  | .natural n => toString n
  | .negated n => "-" ++ toString n
  | .real x => ((Literal.ofFloat? x).map fun literal => String.ofList literal.chars).getD "null"

def Number.toFloat : Number → Float
  | .natural n => n.toUInt64.toFloat
  | .negated n => -n.toUInt64.toFloat
  | .real x => x

end RhythmBot.Json
