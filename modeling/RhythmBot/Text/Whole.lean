/-!
Whole numbers written in decimal digits, with an optional sign.
-/

namespace RhythmBot.Text

def digitValue? (c : Char) : Option Nat :=
  if '0' ≤ c ∧ c ≤ '9' then some (c.toNat - 48) else none

def digitsFrom? (value : Nat) : List Char → Option Nat
  | [] => some value
  | c :: rest => do
    let digit ← digitValue? c
    digitsFrom? (10 * value + digit) rest

def digits? : List Char → Option Nat
  | [] => none
  | cs => digitsFrom? 0 cs

def natural? (largest : Nat) (text : String) : Option Nat := do
  let value ← match text.toList with
    | '+' :: rest => digits? rest
    | cs => digits? cs
  if value ≤ largest then some value else none

def integer? (text : String) : Option Int :=
  match text.toList with
  | '-' :: rest => do
    let value ← digits? rest
    if value ≤ 0x8000000000000000 then some (-(value : Int)) else none
  | _ => (natural? 0x7fffffffffffffff text).map Int.ofNat

end RhythmBot.Text
