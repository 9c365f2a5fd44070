import RhythmBot.Http.Percent
/-!
Form encoding: named parameters as one text.
-/

namespace RhythmBot.Http

abbrev FormData := List (String × String)

namespace Form

def isPlain (c : Char) : Bool :=
  c.isAlphanum || c == '*' || c == '-' || c == '.' || c == '_'

/-- A character of a name or a value: a space becomes a plus sign. -/
def encodeChar (c : Char) : List Char :=
  if c = ' ' then ['+'] else percentChar isPlain c

def encodeText (text : String) : List Char := text.toList.flatMap encodeChar

def encodePair (pair : String × String) : List Char :=
  encodeText pair.1 ++ '=' :: encodeText pair.2

def encode (pairs : FormData) : List Char :=
  List.intercalate ['&'] (pairs.map encodePair)

def splitAt (mark : Char) : List Char → List (List Char)
  | [] => [[]]
  | c :: rest =>
    if c = mark then [] :: splitAt mark rest
    else
      match splitAt mark rest with
      | [] => [[c]]
      | piece :: later => (c :: piece) :: later

def decodeText? (cs : List Char) : Option String :=
  decodedText? (cs.map fun c => if c = '+' then ' ' else c)

def decodePair? (cs : List Char) : Option (String × String) := do
  let name ← decodeText? (cs.takeWhile (· != '='))
  let value ← decodeText? ((cs.dropWhile (· != '=')).drop 1)
  some (name, value)

def decode? (cs : List Char) : Option FormData :=
  ((splitAt '&' cs).filter fun piece => !piece.isEmpty).mapM decodePair?

end Form

end RhythmBot.Http
