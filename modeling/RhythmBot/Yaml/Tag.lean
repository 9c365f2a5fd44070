import RhythmBot.Json.Reader
/-!
Tags of YAML nodes: the bytes that a written tag stands for, and what kind of tag they make.
-/

namespace RhythmBot.Yaml

/-- A tag. Escapes may spell any bytes in the form of characters, so it need not be a text. -/
abbrev Tag := List UInt8

namespace Tag

def furtherBytes? (byte : Nat) : Option Nat :=
  if byte < 0x80 then some 0
  else if 0xc0 ≤ byte ∧ byte < 0xe0 then some 1
  else if 0xe0 ≤ byte ∧ byte < 0xf0 then some 2
  else if 0xf0 ≤ byte ∧ byte < 0xf8 then some 3
  else none

/-- The bytes of a written tag, where a percent sign and two digits stand for a byte. Some number of
the bytes in front still goes on with a character. -/
def bytes? (further : Nat) : List Char → Option (List UInt8)
  | [] => if further = 0 then some [] else none
  | '%' :: high :: low :: rest => do
    let byte := 16 * (← Json.hexValue? high) + (← Json.hexValue? low)
    let further ←
      if further = 0 then furtherBytes? byte
      else if 0x80 ≤ byte ∧ byte < 0xc0 then some (further - 1)
      else none
    (bytes? further rest).map (UInt8.ofNat byte :: ·)
  | '%' :: _ => none
  | c :: rest => do
    if further ≠ 0 then none
    (bytes? 0 rest).map (UInt8.ofNat c.toNat :: ·)

def ofWritten? (written : List Char) : Option Tag :=
  (bytes? 0 written).map fun bytes => bytes.takeWhile (· != 0)

def bare : Tag := "!".toUTF8.toList

def coreFront : Tag := "tag:yaml.org,2002:".toUTF8.toList

def core (name : String) : Tag := coreFront ++ name.toUTF8.toList

def isOwn (tag : Tag) : Bool := tag.head? == bare.head?

/-- The name of a tag of the document's own making: what follows the exclamation mark, or the mark
where nothing follows. Bytes that are no text are no name. -/
def ownName? (tag : Tag) : Option String :=
  if tag.isOwn then
    let name := if tag.length = 1 then tag else tag.tail
    String.fromUTF8? ⟨name.toArray⟩
  else none

end Tag

end RhythmBot.Yaml
