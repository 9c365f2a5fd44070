/-!
Media types such as `image/png; q=1`, with their parameters. The type and the names of parameters
are in lower case, and so is a character set; other values keep their case.
-/

namespace RhythmBot

structure MediaType where
  text : String
  deriving Repr, DecidableEq

namespace MediaType

def png : MediaType := ⟨"image/png"⟩

instance : Inhabited MediaType := ⟨png⟩

def isTokenChar (c : Char) : Bool :=
  c.isAlphanum || "!#$%&'*+-.^_|~".toList.contains c || c.toNat == 0x60

def isQuotedChar (c : Char) : Bool := 32 ≤ c.toNat && c.toNat != 127

def lower (cs : List Char) : List Char := cs.map Char.toLower

def token? (cs : List Char) : Option (List Char × List Char) :=
  let token := cs.takeWhile isTokenChar
  if token.isEmpty then none else some (token, cs.dropWhile isTokenChar)

/-- A value in quotes behind the opening one, with the blanks behind it, and the rest. The value is
not empty: its first character may be a quote. -/
def quoted? : List Char → Option (List Char × List Char)
  | [] => none
  | first :: cs =>
    let later := cs.takeWhile (· != '"')
    match cs.dropWhile (· != '"') with
    | '"' :: rest =>
      if (first :: later).all isQuotedChar then
        some (first :: later ++ '"' :: rest.takeWhile (· == ' '), rest.dropWhile (· == ' '))
      else none
    | _ => none

def value? : List Char → Option (List Char × List Char)
  | '"' :: rest => (quoted? rest).map fun (value, rest) => ('"' :: value, rest)
  | [] => some ([], [])
  | cs => token? cs

def parameters? (fuel : Nat) (cs : List Char) : Option (List Char) :=
  match fuel with
  | 0 => none
  | fuel + 1 =>
    let blanks := cs.takeWhile (· == ' ')
    match cs.dropWhile (· == ' ') with
    | [] => some blanks
    | cs => do
      let (name, rest) ← token? cs
      match rest with
      | '=' :: rest => do
        let (value, rest) ← value? rest
        let name := lower name
        let value := if name = "charset".toList then lower value else value
        let front := blanks ++ name ++ '=' :: value
        match rest with
        | [] => some front
        | ';' :: rest => (parameters? fuel rest).map fun later => front ++ ';' :: later
        | _ => none
      | _ => none

/-- The media type of a text. The part behind the slash may be empty at the end of the text, and a
semicolon without parameters behind it is dropped. -/
def ofText? (text : String) : Option MediaType := do
  let (top, rest) ← token? text.toList
  match rest with
  | '/' :: rest => do
    let sub := rest.takeWhile isTokenChar
    let front := lower top ++ '/' :: lower sub
    match rest.dropWhile isTokenChar with
    | [] => some ⟨String.ofList front⟩
    | ';' :: rest => do
      if sub.isEmpty then none
      let parameters ← parameters? (rest.length + 1) rest
      let back := if parameters.all (· == ' ') then [] else ';' :: parameters
      some ⟨String.ofList (front ++ back)⟩
    | _ => none
  | _ => none

end MediaType

end RhythmBot
