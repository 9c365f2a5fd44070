/-!
A place in a YAML text: what is left to read, how many bytes were read, and the line and column
reached.
-/

namespace RhythmBot.Yaml

/-- A place in a text. Its index counts bytes, its column characters. -/
structure Cursor where
  rest : List Char
  index : Nat
  line : Nat
  column : Nat
  deriving Repr, DecidableEq

def isBreak (c : Char) : Bool :=
  c == '\n' || c == '\r' || c.toNat == 0x85 || c.toNat == 0x2028 || c.toNat == 0x2029

def byteSize (cs : List Char) : Nat := cs.foldl (fun size c => size + c.utf8Size) 0

def isGap (c : Char) : Bool := c == ' ' || c == '\t'

namespace Cursor

def start (text : List Char) : Cursor := ⟨text, 0, 0, 0⟩

def ahead? (cursor : Cursor) (n : Nat) : Option Char := cursor.rest[n]?

def char? (cursor : Cursor) : Option Char := cursor.rest.head?

def aheadIs (cursor : Cursor) (n : Nat) (holds : Char → Bool) : Bool :=
  (cursor.ahead? n).any holds

def atChar (cursor : Cursor) (holds : Char → Bool) : Bool := cursor.char?.any holds

def atEnd (cursor : Cursor) : Bool := cursor.rest.isEmpty

def blankAhead (cursor : Cursor) (n : Nat) : Bool :=
  (cursor.ahead? n).all fun c => isGap c || isBreak c

def atLineEnd (cursor : Cursor) : Bool := cursor.char?.all isBreak

def skip (cursor : Cursor) (n : Nat) : Cursor :=
  ⟨cursor.rest.drop n, cursor.index + byteSize (cursor.rest.take n), cursor.line,
    cursor.column + n⟩

def next (cursor : Cursor) : Cursor := cursor.skip 1

/-- The end of a line at hand as text, and the place behind it. A carriage return with a line feed
counts as one; only the two separators beyond ASCII are kept as they are. -/
def lineBreak (cursor : Cursor) : List Char × Cursor :=
  match cursor.rest with
  | '\r' :: '\n' :: rest => (['\n'], ⟨rest, cursor.index + 2, cursor.line + 1, 0⟩)
  | c :: rest =>
    let text := if c.toNat == 0x2028 || c.toNat == 0x2029 then [c] else ['\n']
    (text, ⟨rest, cursor.index + c.utf8Size, cursor.line + 1, 0⟩)
  | [] => ([], cursor)

def skipWhile (cursor : Cursor) (holds : Char → Bool) : Cursor :=
  cursor.skip (cursor.rest.takeWhile holds).length

def takeWhile (cursor : Cursor) (holds : Char → Bool) : List Char × Cursor :=
  (cursor.rest.takeWhile holds, cursor.skipWhile holds)

def atMarker (cursor : Cursor) (c : Char) : Bool :=
  cursor.column == 0 && cursor.rest.take 3 == [c, c, c] && cursor.blankAhead 3

def atDocumentMarker (cursor : Cursor) : Bool := cursor.atMarker '-' || cursor.atMarker '.'

end Cursor

end RhythmBot.Yaml
