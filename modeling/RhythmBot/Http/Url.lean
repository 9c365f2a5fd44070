import RhythmBot.Http.Form
import RhythmBot.Text.Whole
/-!
Addresses of web servers and how they are read from a text: blanks around them and line ends are
ignored, backslashes count as slashes, `.` and `..` are resolved, and what may not stand in a part
is percent-encoded.
-/

namespace RhythmBot.Http

/-- An address: whether the connection is encrypted, the server with its port if one is given, the
segments of the path, and the parts behind a question mark and a hash sign. -/
structure Url where
  encrypted : Bool
  host : List Char
  port : Option Nat
  path : List (List Char)
  query : Option (List Char)
  fragment : Option (List Char)
  deriving Repr, DecidableEq

namespace Url

def isControl (c : Char) : Bool := c.toNat ≤ 32

def clean (cs : List Char) : List Char :=
  let cs := ((cs.dropWhile isControl).reverse.dropWhile isControl).reverse
  cs.filter fun c => c != '\t' && c != '\n' && c != '\r'

def isSlash (c : Char) : Bool := c == '/' || c == '\\'

def endsAuthority (c : Char) : Bool := isSlash c || c == '?' || c == '#'

def scheme? (cs : List Char) : Option (Bool × List Char) :=
  let name := (cs.takeWhile (· != ':')).map Char.toLower
  match cs.dropWhile (· != ':') with
  | ':' :: rest =>
    if name = "http".toList then some (false, rest)
    else if name = "https".toList then some (true, rest)
    else none
  | _ => none

def isHostChar (c : Char) : Bool :=
  32 < c.toNat && c.toNat != 127 && !"#/:<>?@[\\]^|%".toList.contains c

def port? (encrypted : Bool) (cs : List Char) : Option (Option Nat) :=
  if cs.isEmpty then some none
  else do
    let port ← Text.digits? cs
    if 65535 < port then none
    some (if port = (if encrypted then 443 else 80) then none else some port)

/-- The name and the port of a server, user names in front of an at sign ignored. -/
def authority? (encrypted : Bool) (cs : List Char) : Option (List Char × Option Nat) := do
  let cs := (cs.reverse.takeWhile (· != '@')).reverse
  let inBrackets := cs.head? == some '['
  let host := if inBrackets then cs.takeWhile (· != ']') ++ [']'] else cs.takeWhile (· != ':')
  let rest := if inBrackets then (cs.dropWhile (· != ']')).drop 1 else cs.dropWhile (· != ':')
  if host.isEmpty || !(inBrackets || host.all isHostChar) then none
  let port ← match rest with
    | [] => some none
    | ':' :: digits => port? encrypted digits
    | _ => none
  some (host.map Char.toLower, port)

def splitSlashes : List Char → List (List Char)
  | [] => [[]]
  | c :: rest =>
    if isSlash c then [] :: splitSlashes rest
    else
      match splitSlashes rest with
      | [] => [[c]]
      | piece :: later => (c :: piece) :: later

/-- The number of dots that a segment stands for, where it has nothing but dots, escaped or not. -/
def dots? : List Char → Option Nat
  | [] => some 0
  | '.' :: rest => (dots? rest).map (· + 1)
  | '%' :: '2' :: c :: rest =>
    if c = 'e' ∨ c = 'E' then (dots? rest).map (· + 1) else none
  | _ => none

/-- Resolves segments behind those already resolved, the last one first: one dot stands for the same
place and two dots for the one above. -/
def resolveFrom (done : List (List Char)) : List (List Char) → List (List Char)
  | [] => done.reverse
  | [segment] =>
    match dots? segment with
    | some 1 => done.reverse ++ [[]]
    | some 2 => done.tail.reverse ++ [[]]
    | _ => done.reverse ++ [segment]
  | segment :: rest =>
    match dots? segment with
    | some 1 => resolveFrom done rest
    | some 2 => resolveFrom done.tail rest
    | _ => resolveFrom (segment :: done) rest

def isVisible (c : Char) : Bool := 32 < c.toNat && c.toNat < 127

def isPathChar (c : Char) : Bool :=
  isVisible c && !"\"#<>?".toList.contains c && c != '\x7b' && c != '\x7d' && c.toNat != 0x60

def isQueryChar (c : Char) : Bool := isVisible c && !"\"#<>'".toList.contains c

def isFragmentChar (c : Char) : Bool :=
  isVisible c && !"\"<>".toList.contains c && c.toNat != 0x60

def pathOf (cs : List Char) : List (List Char) :=
  let cs := match cs with
    | [] => []
    | c :: rest => if isSlash c then rest else c :: rest
  (resolveFrom [] (splitSlashes cs)).map (percentEncode isPathChar)

def behind? (mark : Char) : List Char → Option (List Char)
  | [] => none
  | c :: rest => if c = mark then some rest else none

def ofText? (text : String) : Option Url := do
  let (encrypted, rest) ← scheme? (clean text.toList)
  let rest := rest.dropWhile isSlash
  let (host, port) ← authority? encrypted (rest.takeWhile (!endsAuthority ·))
  let rest := rest.dropWhile (!endsAuthority ·)
  let path := rest.takeWhile fun c => c != '?' && c != '#'
  let rest := rest.dropWhile fun c => c != '?' && c != '#'
  let query := (behind? '?' rest).map fun query =>
    percentEncode isQueryChar (query.takeWhile (· != '#'))
  let fragment := (behind? '#' (rest.dropWhile (· != '#'))).map (percentEncode isFragmentChar)
  some ⟨encrypted, host, port, pathOf path, query, fragment⟩

def withParameters (url : Url) (parameters : FormData) : Url :=
  let front := match url.query with
    | none => []
    | some query => if query.isEmpty then [] else query ++ ['&']
  { url with query := some (front ++ Form.encode parameters) }

def pathText (url : Url) : List Char := url.path.flatMap ('/' :: ·)

def target (url : Url) : String :=
  String.ofList (url.pathText ++ ((url.query.map ('?' :: ·)).getD []))

end Url

end RhythmBot.Http
