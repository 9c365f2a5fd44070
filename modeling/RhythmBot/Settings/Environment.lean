import RhythmBot.Settings.Numeral
import RhythmBot.Settings.Path
import RhythmBot.Text.Blank
/-!
Settings out of environment variables: the name of a variable is the path of a setting, and its
value is a setting on one line, read from left to right: the first fault counts.
-/

namespace RhythmBot.Settings

open Text

def isInlineBlank (c : Char) : Bool :=
  c == ' ' || c == '\t' || c == '\n' || c == '\r' || c.toNat == 12

def skipInline (cs : List Char) : List Char := cs.dropWhile isInlineBlank

def separates (c : Char) : Bool :=
  c == ',' || c == '\x7b' || c == '\x7d' || c == '[' || c == ']'

def ofBare (cs : List Char) : Setting :=
  let bare := strip cs
  let text := String.ofList bare
  if bare.contains '.' && (decimal? bare).isSome then .real
  else
    match natural? Json.largestWord text with
    | some n => .whole n
    | none =>
      match integer? text with
      | some n => .whole n
      | none => .text text

/-- The raw text in quotes behind the opening one, and what follows the closing one. A quote behind
a backslash does not close. -/
def rawQuoted? : List Char → Option (List Char × List Char)
  | [] => none
  | '"' :: rest => some ([], rest)
  | '\\' :: c :: rest => (rawQuoted? rest).map fun (raw, rest) => ('\\' :: c :: raw, rest)
  | c :: rest => (rawQuoted? rest).map fun (raw, rest) => (c :: raw, rest)

def isLiteral (c : Char) : Bool := c == '\t' || (0x20 ≤ c.toNat && c.toNat != 0x7f)

def numbered? (digits : List Char) : Option Char := do
  let value ← inBase? 16 digits
  if h : value.isValidChar then some (Char.ofNatAux value h) else none

def escaped? : Char → Option Char
  | '"' => some '"'
  | '\\' => some '\\'
  | 'b' => some (Char.ofNat 8)
  | 'f' => some (Char.ofNat 12)
  | 'n' => some '\n'
  | 'r' => some '\r'
  | 't' => some '\t'
  | _ => none

def unescaped? : List Char → Option (List Char)
  | [] => some []
  | '\\' :: 'u' :: a :: b :: c :: d :: rest => do
    let found ← numbered? [a, b, c, d]
    (unescaped? rest).map (found :: ·)
  | '\\' :: 'U' :: a :: b :: c :: d :: e :: f :: g :: h :: rest => do
    let found ← numbered? [a, b, c, d, e, f, g, h]
    (unescaped? rest).map (found :: ·)
  | '\\' :: c :: rest => do
    let found ← escaped? c
    (unescaped? rest).map (found :: ·)
  | c :: rest => if isLiteral c && c != '\\' then (unescaped? rest).map (c :: ·) else none

def firstBytes? : Nat → List Char → Option (List Char)
  | 0, _ => some []
  | _, [] => some []
  | count, c :: rest =>
    if c.utf8Size ≤ count then (firstBytes? (count - c.utf8Size) rest).map (c :: ·) else none

/-- The text of a raw one. In front of the first escape only as many bytes are kept as there are
characters, so that text beyond ASCII is cut short there. -/
def ofRaw (raw : List Char) : Except SettingsError (List Char) := do
  let front := raw.takeWhile (· != '\\')
  let rest := raw.dropWhile (· != '\\')
  if !front.all isLiteral then .error .unreadable
  if rest.isEmpty then return front
  match firstBytes? front.length front, unescaped? rest with
  | none, _ => .error .cutCharacter
  | _, none => .error .unreadable
  | some kept, some text => return kept ++ text

def quoted (cs : List Char) : Except SettingsError (String × List Char) :=
  match rawQuoted? cs with
  | none => .error .unreadable
  | some (raw, rest) => (ofRaw raw).map fun text => (String.ofList text, rest)

def isKeyChar (c : Char) : Bool := c.isAlphanum || c == '_' || c == '-'

def key : List Char → Except SettingsError (String × List Char)
  | '"' :: rest => quoted rest
  | cs =>
    let name := cs.takeWhile isKeyChar
    if name.isEmpty then .error .unreadable
    else .ok (String.ofList name, cs.dropWhile isKeyChar)

mutual

def inline (fuel : Nat) (cs : List Char) : Except SettingsError (Setting × List Char) :=
  match fuel with
  | 0 => .error .unreadable
  | fuel + 1 => do
    let (setting, rest) ← match skipInline cs with
      | 't' :: 'r' :: 'u' :: 'e' :: rest => .ok (Setting.flag true, rest)
      | 'f' :: 'a' :: 'l' :: 's' :: 'e' :: rest => .ok (Setting.flag false, rest)
      | '\x7b' :: rest =>
        (inlineEntries fuel [] rest).map fun (entries, rest) => (Setting.table entries, rest)
      | '[' :: rest =>
        (inlineItems fuel rest).map fun (items, rest) => (Setting.list items, rest)
      | '"' :: rest => (quoted rest).map fun (text, rest) => (Setting.text text, rest)
      | '\'' :: c :: '\'' :: rest => .ok (Setting.text (String.ofList [c]), rest)
      | '\'' :: _ => .error .unreadable
      | cs => .ok (ofBare (cs.takeWhile (!separates ·)), cs.dropWhile (!separates ·))
    return (setting, skipInline rest)

def inlineItems (fuel : Nat) (cs : List Char) : Except SettingsError (List Setting × List Char) :=
  match fuel with
  | 0 => .error .unreadable
  | fuel + 1 =>
    match cs with
    | ']' :: rest => .ok ([], rest)
    | cs => do
      let (item, rest) ← inline fuel cs
      match rest with
      | ',' :: rest => (inlineItems fuel rest).map fun (items, rest) => (item :: items, rest)
      | ']' :: rest => return ([item], rest)
      | _ => .error .unreadable

def inlineEntries (fuel : Nat) (entries : List (String × Setting)) (cs : List Char) :
    Except SettingsError (List (String × Setting) × List Char) :=
  match fuel with
  | 0 => .error .unreadable
  | fuel + 1 =>
    match cs with
    | '\x7d' :: rest => .ok (entries, rest)
    | cs => do
      let (name, rest) ← key (skipInline cs)
      match skipInline rest with
      | '=' :: rest => do
        let (value, rest) ← inline fuel rest
        let entries := putEntry name value entries
        match rest with
        | ',' :: rest => inlineEntries fuel entries rest
        | '\x7d' :: rest => return (entries, rest)
        | _ => .error .unreadable
      | _ => .error .unreadable

end

/-- The setting of a variable's value; one that cannot be read to its end is a text. -/
def ofVariable (value : String) : Except SettingsError Setting :=
  match inline (2 * value.length + 2) value.toList with
  | .ok (setting, []) => .ok setting
  | .error .cutCharacter => .error .cutCharacter
  | _ => .ok (.text value)

def variableFront : List Char := "scorebot_".toList

def pointed : List Char → List Char
  | '_' :: '_' :: rest => '.' :: pointed rest
  | c :: rest => c :: pointed rest
  | [] => []

/-- The path of the setting that a variable is for, if it is for one. No part of it is empty. -/
def variablePath? (name : String) : Option (List String) :=
  let cs := (strip name.toList).map Char.toLower
  if variableFront.isPrefixOf cs then
    let path := pathOf (strip (pointed (cs.drop variableFront.length)))
    if path.any List.isEmpty then none else some (path.map String.ofList)
  else none

/-- The settings of environment variables, each over the earlier ones. Of several values of one
variable the last counts. -/
def ofEnvironment (environment : List (String × String)) : Except SettingsError Setting :=
  (Table.ofList environment).entries.foldlM
    (fun settings (name, value) =>
      match variablePath? name with
      | some path => return settings.under (nested (← ofVariable value) path)
      | none => return settings)
    (.table [])

end RhythmBot.Settings
