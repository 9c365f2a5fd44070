/-!
Case mapping as far as it stays within ASCII, which is all that a comparison with an ASCII word
can see.
-/

namespace RhythmBot.Text

/-- The lower case of a character where that is an ASCII character: the ASCII capitals and the
Kelvin sign have one. Any other character stays, and its lower case is outside ASCII. -/
def lowerAscii (c : Char) : Char :=
  if c = '\u212a' then 'k' else c.toLower

/-- The upper case of a character when all of it is ASCII. Outside ASCII these are the sharp s,
the dotless i, the long s and the Latin ligatures. -/
def upperAscii? (c : Char) : Option (List Char) :=
  if c.toNat < 128 then some [c.toUpper]
  else
    match c.toNat with
    | 0xdf => some ['S', 'S']
    | 0x131 => some ['I']
    | 0x17f => some ['S']
    | 0xfb00 => some ['F', 'F']
    | 0xfb01 => some ['F', 'I']
    | 0xfb02 => some ['F', 'L']
    | 0xfb03 => some ['F', 'F', 'I']
    | 0xfb04 => some ['F', 'F', 'L']
    | 0xfb05 => some ['S', 'T']
    | 0xfb06 => some ['S', 'T']
    | _ => none

def upperAsciiText? : List Char → Option (List Char)
  | [] => some []
  | c :: rest => do
    let front ← upperAscii? c
    let back ← upperAsciiText? rest
    some (front ++ back)

def lowerAsciiText (text : String) : String :=
  String.ofList (text.toList.map lowerAscii)

end RhythmBot.Text
