import RhythmBot.Json.Reader
/-!
Numbers as settings write them: whole ones in four bases, and decimal ones.
-/

namespace RhythmBot.Settings

open Text

def inBase? (base : Nat) : List Char → Option Nat
  | [] => none
  | cs => do
    let digits ← cs.mapM Json.hexValue?
    if digits.all (· < base) then some (digits.foldl (fun value digit => base * value + digit) 0)
    else none

def marked? : List Char → Option (Nat × List Char)
  | '0' :: 'x' :: rest => some (16, rest)
  | '0' :: 'o' :: rest => some (8, rest)
  | '0' :: 'b' :: rest => some (2, rest)
  | _ => none

/-- Whether a text is a zero with other digits behind it, which is no number. -/
def isPadded (cs : List Char) : Bool :=
  let digits := match cs with
    | '+' :: rest => rest
    | '-' :: rest => rest
    | cs => cs
  digits.head? == some '0' && digits.length != 1 && digits.all fun c => (digitValue? c).isSome

def size? (cs : List Char) : Option Nat :=
  match marked? cs with
  | some (base, rest) => inBase? base rest
  | none => if isPadded cs then none else inBase? 10 cs

def short? (size : Nat) : Option Int :=
  if size ≤ 0xffffffffffffffffffffffffffffffff then some size else none

def whole? : List Char → Option Int
  | '-' :: rest => do
    let size ← size? rest
    if size ≤ 0x80000000000000000000000000000000 then some (-(size : Int)) else none
  | '+' :: rest => (size? rest).bind short?
  | cs => (size? cs).bind short?

def unsignedDecimal? (negative : Bool) (cs : List Char) : Option Json.Literal := do
  let (whole, rest) := Json.digitRun cs
  let (fraction, rest) := match rest with
    | '.' :: rest => Json.digitRun rest
    | rest => ([], rest)
  if whole.isEmpty && fraction.isEmpty then none
  let (exponent, rest) ← Json.exponentPart? rest
  if rest.isEmpty then some ⟨negative, whole, fraction, exponent⟩ else none

def decimal? : List Char → Option Json.Literal
  | '-' :: rest => unsignedDecimal? true rest
  | '+' :: rest => unsignedDecimal? false rest
  | cs => unsignedDecimal? false cs

end RhythmBot.Settings
