import RhythmBot.Text.Case
/-!
Score modifiers as a set of bits, the tokens that name them and their text.
-/

namespace RhythmBot

open Text

structure Modifier where
  first : Char
  second : Char
  bits : BitVec 32
  deriving Repr, DecidableEq

def Modifier.letters (modifier : Modifier) : List Char := [modifier.first, modifier.second]

structure Mods where
  bits : BitVec 32
  deriving Repr, DecidableEq

namespace Mods

def none : Mods := ⟨0⟩

instance : Inhabited Mods := ⟨none⟩

/-- Every modifier in the order of its display. The nightcore and perfect modifiers carry the bit
of the one that they extend. -/
def table : List Modifier :=
  [⟨'N', 'F', 1⟩, ⟨'E', 'Z', 2⟩, ⟨'T', 'D', 4⟩, ⟨'H', 'D', 8⟩, ⟨'H', 'R', 16⟩, ⟨'S', 'D', 32⟩,
    ⟨'D', 'T', 64⟩, ⟨'R', 'X', 128⟩, ⟨'H', 'T', 256⟩, ⟨'N', 'C', 512 ||| 64⟩, ⟨'F', 'L', 1024⟩,
    ⟨'A', 'T', 2048⟩, ⟨'S', 'O', 4096⟩, ⟨'A', 'P', 8192⟩, ⟨'P', 'F', 16384 ||| 32⟩]

def union (a b : Mods) : Mods := ⟨a.bits ||| b.bits⟩

def isNone (mods : Mods) : Bool := mods.bits == 0

def modifier? (first second : Char) : Option Modifier :=
  table.find? fun modifier => modifier.first == first && modifier.second == second

def ofLetters? : List Char → Option Mods
  | [] => some none
  | [_] => Option.none
  | first :: second :: rest => do
    let modifier ← modifier? first second
    let others ← ofLetters? rest
    some (union ⟨modifier.bits⟩ others)

def ofToken? (token : String) : Option Mods :=
  match token.toList with
  | '+' :: letters => do
    let capitals ← upperAsciiText? letters
    if capitals.isEmpty then Option.none else ofLetters? capitals
  | _ => Option.none

def ofTokens (tokens : List String) : Mods :=
  (tokens.filterMap ofToken?).foldl union none

/-- The modifiers of a list to show for a set, chosen from the end of the list, with the bits that
they cover: a modifier is shown if the set has all its bits and those shown behind it do not. -/
def shownFrom (bits : BitVec 32) : List Modifier → List Modifier × BitVec 32
  | [] => ([], 0)
  | modifier :: rest =>
    let (shown, covered) := shownFrom bits rest
    if bits &&& modifier.bits = modifier.bits ∧ covered &&& modifier.bits ≠ modifier.bits then
      (modifier :: shown, covered ||| modifier.bits)
    else (shown, covered)

def shown (mods : Mods) : List Modifier := (shownFrom mods.bits table).1

def text (mods : Mods) : String :=
  if mods.isNone then "NM" else String.ofList (mods.shown.flatMap Modifier.letters)

@[simp] theorem union_none (mods : Mods) : union mods none = mods := by
  simp [union, none]

@[simp] theorem none_union (mods : Mods) : union none mods = mods := by
  simp [union, none]

@[simp] theorem union_self (mods : Mods) : union mods mods = mods := by
  simp [union]

end Mods

end RhythmBot
