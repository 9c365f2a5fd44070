import RhythmBot.Json.Number
import RhythmBot.Table
/-!
JSON documents and their compact text.
-/

namespace RhythmBot

/-- A document. A string whose escapes leave half of a surrogate pair alone has no text. -/
inductive Json where
  | null
  | bool (value : Bool)
  | number (literal : Json.Literal)
  | string (text : Option String)
  | array (items : List Json)
  | object (members : List (Option String × Json))
  deriving Inhabited

namespace Json

def ofText (text : String) : Json := .string (some text)

def ofNat (n : Nat) : Json := .number (.ofNat n)

def ofInt (n : Int) : Json := .number (.ofInt n)

/-- The document of a number; the infinities and the value that is no number are written as
`null`. -/
def ofFloat (x : Float) : Json :=
  match Literal.ofFloat? x with
  | some literal => .number literal
  | none => .null

def ofOption {α : Type} (encode : α → Json) : Option α → Json
  | some value => encode value
  | none => .null

def ofList {α : Type} (encode : α → Json) (items : List α) : Json :=
  .array (items.map encode)

def record (members : List (String × Json)) : Json :=
  .object (members.map fun (name, value) => (some name, value))

def ofTable {α : Type} (encode : α → Json) (table : Table α) : Json :=
  record (table.entries.map fun (key, value) => (key, encode value))

def hexDigit (n : Nat) : Char :=
  if n < 10 then Char.ofNat (n + 48) else Char.ofNat (n + 87)

def escapeChar (c : Char) : List Char :=
  match c with
  | '"' => ['\\', '"']
  | '\\' => ['\\', '\\']
  | '\n' => ['\\', 'n']
  | '\r' => ['\\', 'r']
  | '\t' => ['\\', 't']
  | _ =>
    if c.toNat = 8 then ['\\', 'b']
    else if c.toNat = 12 then ['\\', 'f']
    else if c.toNat < 32 then
      ['\\', 'u', '0', '0', hexDigit (c.toNat / 16), hexDigit (c.toNat % 16)]
    else [c]

def quote (text : String) : List Char :=
  '"' :: text.toList.flatMap escapeChar ++ ['"']

def commaJoin : List (List Char) → List Char
  | [] => []
  | [piece] => piece
  | piece :: rest => piece ++ ',' :: commaJoin rest

mutual

def chars : Json → List Char
  | .null => "null".toList
  | .bool true => "true".toList
  | .bool false => "false".toList
  | .number literal => literal.chars
  | .string text => quote (text.getD "")
  | .array items => '[' :: commaJoin (itemsChars items) ++ [']']
  | .object members => '\x7b' :: commaJoin (membersChars members) ++ ['\x7d']

def itemsChars : List Json → List (List Char)
  | [] => []
  | item :: rest => chars item :: itemsChars rest

def membersChars : List (Option String × Json) → List (List Char)
  | [] => []
  | (name, value) :: rest => (quote (name.getD "") ++ ':' :: chars value) :: membersChars rest

end

def render (json : Json) : String :=
  String.ofList json.chars

end Json

end RhythmBot
