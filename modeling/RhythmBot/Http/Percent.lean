import RhythmBot.Json.Reader
/-!
Percent encoding: a byte as a percent sign and two hexadecimal digits.
-/

namespace RhythmBot.Http

def upperHex (n : Nat) : Char :=
  if n < 10 then Char.ofNat (n + 48) else Char.ofNat (n + 55)

theorem hexValue?_upperHex (n : Nat) (digit : n < 16) : Json.hexValue? (upperHex n) = some n := by
  have all : ∀ m ∈ List.range 16, Json.hexValue? (upperHex m) = some m := by decide
  exact all n (List.mem_range.2 digit)

def escapeByte (byte : UInt8) : List Char :=
  ['%', upperHex (byte.toNat / 16), upperHex (byte.toNat % 16)]

def percentChar (keeps : Char → Bool) (c : Char) : List Char :=
  if keeps c then [c] else (String.utf8EncodeChar c).flatMap escapeByte

def percentEncode (keeps : Char → Bool) (cs : List Char) : List Char :=
  cs.flatMap (percentChar keeps)

/-- The bytes that a text stands for. A percent sign without two digits behind it stands for
itself. -/
def percentDecode : List Char → List UInt8
  | [] => []
  | '%' :: high :: low :: rest =>
    match Json.hexValue? high, Json.hexValue? low with
    | some high, some low => UInt8.ofNat (16 * high + low) :: percentDecode rest
    | _, _ => 37 :: percentDecode (high :: low :: rest)
  | c :: rest => String.utf8EncodeChar c ++ percentDecode rest

def decodedText? (cs : List Char) : Option String :=
  String.fromUTF8? ⟨(percentDecode cs).toArray⟩

end RhythmBot.Http
