import RhythmBot.Text.Whole
import RhythmBot.Yaml.Scalar
import RhythmBot.Yaml.Tag
/-!
The tokens of a YAML text. A key needs no mark in front of it, so the token of a key is put in once
the colon behind it is met; an indentation opens a block collection and its end closes it.
-/

namespace RhythmBot.Yaml

inductive Token where
  | version (major minor : Nat)
  | tagPrefix (handle : String) (text : Tag)
  | documentStart
  | documentEnd
  | blockSequence
  | blockMapping
  | blockEnd
  | flowSequence
  | flowSequenceEnd
  | flowMapping
  | flowMappingEnd
  | dash
  | comma
  | key
  | value
  | reference (name : String)
  | anchor (name : String)
  | tag (handle : String) (text : Tag)
  | scalar (isPlain : Bool) (text : String)
  deriving Repr, DecidableEq

/-- A place where a key may have started: how many tokens came before it, the place, and whether
only a key can stand there. -/
structure PossibleKey where
  before : Nat
  place : Cursor
  required : Bool
  deriving Repr

/-- A text on its way into tokens: the place reached, the tokens so far, the columns of the open
block collections, the possible key on this level and those on the levels around it, one level for
each open flow collection, and whether a key may start here. -/
structure Scan where
  cursor : Cursor
  tokens : List Token
  columns : List Nat
  possible : Option PossibleKey
  outer : List (Option PossibleKey)
  keyAllowed : Bool
  deriving Repr

namespace Scan

def start (text : List Char) : Scan := ⟨.start text, [], [], none, [], true⟩

def inFlow (scan : Scan) : Bool := !scan.outer.isEmpty

def indent (scan : Scan) : Int :=
  match scan.columns with
  | [] => -1
  | column :: _ => column

def emit (scan : Scan) (token : Token) (cursor : Cursor) : Scan :=
  { scan with tokens := scan.tokens ++ [token], cursor := cursor }

def insertAt (scan : Scan) (before : Nat) (token : Token) : Scan :=
  { scan with tokens := scan.tokens.take before ++ token :: scan.tokens.drop before }

def allowing (scan : Scan) (keyAllowed : Bool) : Scan := { scan with keyAllowed := keyAllowed }

def dropKey? (scan : Scan) : Option Scan :=
  if scan.possible.any PossibleKey.required then none else some { scan with possible := none }

def noteKey? (scan : Scan) : Option Scan :=
  if scan.keyAllowed then
    scan.dropKey?.map fun scan =>
      let required := !scan.inFlow && scan.indent == (scan.cursor.column : Int)
      { scan with possible := some ⟨scan.tokens.length, scan.cursor, required⟩ }
  else some scan

def longestKey : Nat := 1024

/-- A possible key as it is at a later place: it stays on one line and is not too long. -/
def fresh? (cursor : Cursor) : Option PossibleKey → Option (Option PossibleKey)
  | none => some none
  | some key =>
    if key.place.line < cursor.line || key.place.index + longestKey < cursor.index then
      if key.required then none else some none
    else some (some key)

def dropStale? (scan : Scan) : Option Scan := do
  let possible ← fresh? scan.cursor scan.possible
  let outer ← scan.outer.mapM (fresh? scan.cursor)
  some { scan with possible := possible, outer := outer }

/-- Opens a block collection at a column deeper than the one open, with its token behind the first
few. -/
def openBlock (scan : Scan) (column before : Nat) (token : Token) : Scan :=
  if !scan.inFlow && scan.indent < column then
    { scan.insertAt before token with columns := column :: scan.columns }
  else scan

def closeBlocks (scan : Scan) (column : Int) : Scan :=
  if scan.inFlow then scan
  else
    let deeper := scan.columns.takeWhile fun (other : Nat) => column < (other : Int)
    { scan with
      tokens := scan.tokens ++ deeper.map fun _ => .blockEnd
      columns := scan.columns.drop deeper.length }

/-- Skips blanks, comments and the ends of lines, and a byte order mark in front of a line. -/
def skipGaps (fuel : Nat) (scan : Scan) : Scan :=
  match fuel with
  | 0 => scan
  | fuel + 1 =>
    let cursor := scan.cursor
    let cursor :=
      if cursor.column == 0 && cursor.atChar (·.toNat == 0xfeff) then cursor.next else cursor
    let cursor := cursor.skipWhile fun c =>
      c == ' ' || (c == '\t' && (scan.inFlow || !scan.keyAllowed))
    let cursor := if cursor.atChar (· == '#') then cursor.skipWhile (!isBreak ·) else cursor
    if cursor.atChar isBreak then
      skipGaps fuel
        { scan with
          cursor := cursor.lineBreak.2
          keyAllowed := scan.keyAllowed || !scan.inFlow }
    else { scan with cursor := cursor }

def isNameChar (c : Char) : Bool := c.isAlphanum || c == '_' || c == '-'

def endsAnchor (c : Char) : Bool :=
  c == '?' || c == ':' || c == ',' || c == ']' || c == '\x7d' || c == '%' || c == '@' ||
    c.toNat == 0x60

def anchorName? (cursor : Cursor) : Option (String × Cursor) :=
  let (name, cursor) := cursor.takeWhile isNameChar
  if name.isEmpty || !(cursor.blankAhead 0 || cursor.atChar endsAnchor) then none
  else some (String.ofList name, cursor)

def isTagChar (bracketed : Bool) (c : Char) : Bool :=
  isNameChar c || ";/?:@&=+$.!~*'()%".toList.contains c ||
    (bracketed && (c == ',' || c == '[' || c == ']'))

def tagHandle? (cursor : Cursor) : Option (List Char × Bool × Cursor) :=
  if cursor.atChar (· == '!') then
    let (name, behind) := cursor.next.takeWhile isNameChar
    if behind.atChar (· == '!') then some ('!' :: name ++ ['!'], true, behind.next)
    else some ('!' :: name, false, behind)
  else none

def tag? (inFlow : Bool) (cursor : Cursor) : Option (Token × Cursor) := do
  let (token, cursor) ←
    if cursor.aheadIs 1 (· == '<') then
      let (written, cursor) := (cursor.skip 2).takeWhile (isTagChar true)
      if written.isEmpty || !cursor.atChar (· == '>') then none
      else some (Token.tag "" (← Tag.ofWritten? written), cursor.next)
    else do
      let (handle, named, cursor) ← tagHandle? cursor
      let (written, cursor) := cursor.takeWhile (isTagChar false)
      if named then
        if written.isEmpty then none
        else some (Token.tag (String.ofList handle) (← Tag.ofWritten? written), cursor)
      else
        let text ← Tag.ofWritten? (handle.tail ++ written)
        some (if text.isEmpty then Token.tag "" .bare else Token.tag "!" text, cursor)
  if cursor.blankAhead 0 || (inFlow && cursor.atChar (· == ',')) then some (token, cursor)
  else none

def versionPart? (cursor : Cursor) : Option (Nat × Cursor) := do
  let (digits, cursor) := cursor.takeWhile Char.isDigit
  if 9 < digits.length then none
  some (← Text.digits? digits, cursor)

def directive? (cursor : Cursor) : Option (Token × Cursor) := do
  let (name, cursor) := cursor.takeWhile isNameChar
  if !cursor.blankAhead 0 then none
  let cursor := cursor.skipWhile isGap
  let (token, cursor) ←
    if name = "YAML".toList then do
      let (major, cursor) ← versionPart? cursor
      if !cursor.atChar (· == '.') then none
      let (minor, cursor) ← versionPart? cursor.next
      some (Token.version major minor, cursor)
    else if name = "TAG".toList then do
      let (handle, named, cursor) ← tagHandle? cursor
      if !(named || handle.length == 1) || !cursor.atChar isGap then none
      let (written, cursor) := (cursor.skipWhile isGap).takeWhile (isTagChar true)
      if written.isEmpty || !cursor.blankAhead 0 then none
      some (Token.tagPrefix (String.ofList handle) (← Tag.ofWritten? written), cursor)
    else none
  let cursor := cursor.skipWhile isGap
  let cursor := if cursor.atChar (· == '#') then cursor.skipWhile (!isBreak ·) else cursor
  if cursor.atLineEnd then some (token, cursor.lineBreak.2) else none

def topLevel? (scan : Scan) (token : Token) (cursor : Cursor) : Option Scan := do
  let scan ← (scan.closeBlocks (-1)).dropKey?
  some ((scan.allowing false).emit token cursor)

def openFlow? (scan : Scan) (token : Token) : Option Scan := do
  let scan ← scan.noteKey?
  some (({ scan with possible := none, outer := scan.possible :: scan.outer }.allowing true).emit
    token scan.cursor.next)

def closeFlow? (scan : Scan) (token : Token) : Option Scan := do
  let scan ← scan.dropKey?
  let scan := match scan.outer with
    | [] => scan
    | possible :: outer => { scan with possible := possible, outer := outer }
  some ((scan.allowing false).emit token scan.cursor.next)

def comma? (scan : Scan) : Option Scan := do
  let scan ← scan.dropKey?
  some ((scan.allowing true).emit .comma scan.cursor.next)

def blockMark? (scan : Scan) (collection token : Token) (keyAllowed : Bool) : Option Scan := do
  if !scan.inFlow && !scan.keyAllowed then none
  let scan ← (scan.openBlock scan.cursor.column scan.tokens.length collection).dropKey?
  some ((scan.allowing keyAllowed).emit token scan.cursor.next)

/-- A colon behind a key. The tokens of the key, and of the collection that it may open, go in front
of it. -/
def value? (scan : Scan) : Option Scan :=
  match scan.possible with
  | some key =>
    let scan := (scan.insertAt key.before .key).openBlock key.place.column key.before .blockMapping
    some (({ scan with possible := none }.allowing false).emit .value scan.cursor.next)
  | none => scan.blockMark? .blockMapping .value !scan.inFlow

def content? (scan : Scan) (read : Scan → Option (Token × Cursor)) : Option Scan := do
  let scan ← scan.noteKey?
  let (token, cursor) ← read scan
  some ((scan.allowing false).emit token cursor)

def blockScalar? (scan : Scan) (folds : Bool) : Option Scan := do
  let scan ← scan.dropKey?
  let (text, cursor) ← block? folds scan.indent scan.cursor
  some ((scan.allowing true).emit (.scalar false (String.ofList text)) cursor)

def quotedScalar? (scan : Scan) (double : Bool) : Option Scan :=
  scan.content? fun scan =>
    (quoted? double scan.cursor).map fun (text, cursor) =>
      (.scalar false (String.ofList text), cursor)

def plainScalar? (scan : Scan) : Option Scan := do
  let scan ← scan.noteKey?
  let (text, brokeLine, cursor) ← plain? scan.inFlow scan.indent scan.cursor
  some ((scan.allowing brokeLine).emit (.scalar true (String.ofList text)) cursor)

def isIndicator (c : Char) : Bool :=
  "-?:,[]#&*!|>'\"%@".toList.contains c || c == '\x7b' || c == '\x7d' || c.toNat == 0x60

def startsPlain (scan : Scan) (c : Char) : Bool :=
  !(isGap c || isBreak c || isIndicator c) ||
    (c == '-' && !scan.cursor.aheadIs 1 isGap) ||
    (!scan.inFlow && (c == '?' || c == ':') && !scan.cursor.blankAhead 1)

def token? (scan : Scan) (c : Char) : Option Scan :=
  let cursor := scan.cursor
  let marksBlock := scan.inFlow || cursor.blankAhead 1
  if cursor.column == 0 && c == '%' then do
    let (token, cursor) ← directive? cursor.next
    scan.topLevel? token cursor
  else if cursor.atMarker '-' then scan.topLevel? .documentStart (cursor.skip 3)
  else if cursor.atMarker '.' then scan.topLevel? .documentEnd (cursor.skip 3)
  else if c == '[' then scan.openFlow? .flowSequence
  else if c == '\x7b' then scan.openFlow? .flowMapping
  else if c == ']' then scan.closeFlow? .flowSequenceEnd
  else if c == '\x7d' then scan.closeFlow? .flowMappingEnd
  else if c == ',' then scan.comma?
  else if c == '-' && cursor.blankAhead 1 then scan.blockMark? .blockSequence .dash true
  else if c == '?' && marksBlock then scan.blockMark? .blockMapping .key !scan.inFlow
  else if c == ':' && marksBlock then scan.value?
  else if c == '*' then
    scan.content? fun scan =>
      (anchorName? scan.cursor.next).map fun (name, cursor) => (.reference name, cursor)
  else if c == '&' then
    scan.content? fun scan =>
      (anchorName? scan.cursor.next).map fun (name, cursor) => (.anchor name, cursor)
  else if c == '!' then scan.content? fun scan => tag? scan.inFlow scan.cursor
  else if c == '|' && !scan.inFlow then scan.blockScalar? false
  else if c == '>' && !scan.inFlow then scan.blockScalar? true
  else if c == '\'' then scan.quotedScalar? false
  else if c == '"' then scan.quotedScalar? true
  else if scan.startsPlain c then scan.plainScalar?
  else none

def finish? (fuel : Nat) (scan : Scan) : Option (List Token) :=
  match fuel with
  | 0 => none
  | fuel + 1 => do
    let scan ← (scan.skipGaps (scan.cursor.rest.length + 1)).dropStale?
    let scan := scan.closeBlocks scan.cursor.column
    match scan.cursor.char? with
    | none => ((scan.closeBlocks (-1)).dropKey?).map Scan.tokens
    | some c => finish? fuel (← scan.token? c)

end Scan

def isPrintable (c : Char) : Bool :=
  let n := c.toNat
  n == 9 || n == 10 || n == 13 || (0x20 ≤ n && n ≤ 0x7e) || n == 0x85 ||
    (0xa0 ≤ n && n != 0xfffe && n != 0xffff)

def tokens? (text : String) : Option (List Token) :=
  let cs := text.toList
  if cs.all isPrintable then (Scan.start cs).finish? (cs.length + 1) else none

end RhythmBot.Yaml
