/-!
A double-precision number taken apart: which of the special values it is, or its sign and the
mantissa and power of two whose product is its size.
-/

namespace RhythmBot.Decimal

inductive Binary where
  | nan
  | infinite (negative : Bool)
  | finite (negative : Bool) (mantissa : Nat) (exponent : Int)
  deriving Repr, DecidableEq

def leastExponent : Int := -1074

def leastNormal : Nat := 0x10000000000000

def Binary.ofBits (bits : UInt64) : Binary :=
  let word := bits.toNat
  let negative := word / 0x8000000000000000 == 1
  let biased : Nat := word / leastNormal % 0x800
  let fraction := word % leastNormal
  if biased = 2047 then
    if fraction = 0 then .infinite negative else .nan
  else if biased = 0 then .finite negative fraction leastExponent
  else .finite negative (leastNormal + fraction) (leastExponent + (biased : Int) - 1)

def Binary.ofFloat (x : Float) : Binary :=
  Binary.ofBits x.toBits

def signText (negative : Bool) : String :=
  if negative then "-" else ""

def infinityText (negative : Bool) : String :=
  signText negative ++ "inf"

def nanText : String := "NaN"

end RhythmBot.Decimal
