import RhythmBot.Json.Reader
import RhythmBot.Yaml.Cursor
/-!
Reading the text of a scalar: plain, in quotes, or as a block.
-/

namespace RhythmBot.Yaml

/-- White space met inside a scalar: on the line, or line ends with the first one apart. -/
structure Gap where
  blanks : List Char
  first : Option (List Char)
  later : List Char

namespace Gap

def none : Gap := ⟨[], Option.none, []⟩

def brokeLine (gap : Gap) : Bool := gap.first.isSome

def isNone (gap : Gap) : Bool := gap.blanks.isEmpty && gap.first.isNone

/-- What white space becomes in the text: a single line end becomes a space, and of more than one
the first is dropped. -/
def folded (gap : Gap) : List Char :=
  match gap.first with
  | Option.none => gap.blanks
  | some first =>
    if first.head? = some '\n' then
      if gap.later.isEmpty then [' '] else gap.later
    else first ++ gap.later

def readFrom (fuel : Nat) (gap : Gap) (cursor : Cursor) : Gap × Cursor :=
  match fuel with
  | 0 => (gap, cursor)
  | fuel + 1 =>
    match cursor.char? with
    | Option.none => (gap, cursor)
    | some c =>
      if isGap c then
        let gap := if gap.brokeLine then gap else { gap with blanks := gap.blanks ++ [c] }
        readFrom fuel gap cursor.next
      else if isBreak c then
        let (text, cursor) := cursor.lineBreak
        let gap := match gap.first with
          | Option.none => ⟨[], some text, []⟩
          | some _ => { gap with later := gap.later ++ text }
        readFrom fuel gap cursor
      else (gap, cursor)

end Gap

def hexNumber? (count : Nat) (cursor : Cursor) : Option (Nat × Cursor) := do
  let digits := cursor.rest.take count
  if digits.length < count then none
  let values ← digits.mapM Json.hexValue?
  some (values.foldl (fun value digit => 16 * value + digit) 0, cursor.skip count)

def numbered? (count : Nat) (cursor : Cursor) : Option (List Char × Cursor) := do
  let (value, cursor) ← hexNumber? count cursor
  if h : value.isValidChar then some ([Char.ofNatAux value h], cursor) else none

def escape? (cursor : Cursor) : Option (List Char × Cursor) :=
  let single (n : Nat) : Option (List Char × Cursor) := some ([Char.ofNat n], cursor.next)
  match cursor.char? with
  | some '0' => single 0
  | some 'a' => single 7
  | some 'b' => single 8
  | some 't' => single 9
  | some '\t' => single 9
  | some 'n' => single 10
  | some 'v' => single 11
  | some 'f' => single 12
  | some 'r' => single 13
  | some 'e' => single 27
  | some ' ' => single 32
  | some '"' => single 34
  | some '/' => single 47
  | some '\\' => single 92
  | some 'N' => single 0x85
  | some '_' => single 0xa0
  | some 'L' => single 0x2028
  | some 'P' => single 0x2029
  | some 'x' => numbered? 2 cursor.next
  | some 'u' => numbered? 4 cursor.next
  | some 'U' => numbered? 8 cursor.next
  | _ => none

/-- The characters in quotes up to white space or the closing quote, and whether the line was
continued by a backslash at its end. -/
def quotedRun? (double : Bool) (fuel : Nat) (text : List Char) (cursor : Cursor) :
    Option (List Char × Bool × Cursor) :=
  match fuel with
  | 0 => none
  | fuel + 1 =>
    match cursor.char? with
    | none => some (text, false, cursor)
    | some c =>
      if isGap c || isBreak c then some (text, false, cursor)
      else if !double && c == '\'' && cursor.aheadIs 1 (· == '\'') then
        quotedRun? double fuel (text ++ ['\'']) (cursor.skip 2)
      else if c == (if double then '"' else '\'') then some (text, false, cursor)
      else if double && c == '\\' && cursor.aheadIs 1 isBreak then
        some (text, true, cursor.next.lineBreak.2)
      else if double && c == '\\' then do
        let (piece, cursor) ← escape? cursor.next
        quotedRun? double fuel (text ++ piece) cursor
      else quotedRun? double fuel (text ++ [c]) cursor.next

def quotedFrom? (double : Bool) (fuel : Nat) (text : List Char) (cursor : Cursor) :
    Option (List Char × Cursor) :=
  match fuel with
  | 0 => none
  | fuel + 1 =>
    if cursor.atDocumentMarker || cursor.atEnd then none
    else do
      let (text, continued, cursor) ← quotedRun? double (cursor.rest.length + 1) text cursor
      if cursor.atChar (· == (if double then '"' else '\'')) && !continued then
        some (text, cursor.next)
      else
        let gap : Gap := if continued then ⟨[], some [], []⟩ else .none
        let (gap, cursor) := gap.readFrom (cursor.rest.length + 1) cursor
        quotedFrom? double fuel (text ++ gap.folded) cursor

def quoted? (double : Bool) (cursor : Cursor) : Option (List Char × Cursor) :=
  quotedFrom? double (cursor.rest.length + 1) [] cursor.next

def isFlowIndicator (c : Char) : Bool :=
  c == ',' || c == '[' || c == ']' || c == '\x7b' || c == '\x7d'

def plainRun? (inFlow : Bool) (fuel : Nat) (text : List Char) (cursor : Cursor) :
    Option (List Char × Cursor) :=
  match fuel with
  | 0 => none
  | fuel + 1 =>
    match cursor.char? with
    | none => some (text, cursor)
    | some c =>
      if isGap c || isBreak c then some (text, cursor)
      else if inFlow && c == ':' && cursor.aheadIs 1 (fun d => isFlowIndicator d || d == '?') then
        none
      else if (c == ':' && cursor.blankAhead 1) || (inFlow && isFlowIndicator c) then
        some (text, cursor)
      else plainRun? inFlow fuel (text ++ [c]) cursor.next

def tabTooLeft (indent : Int) (gap : Gap) (cursor : Cursor) : Bool :=
  gap.brokeLine && (cursor.rest.takeWhile isGap).zipIdx.any fun (c, offset) =>
    c == '\t' && ((cursor.column + offset : Nat) : Int) < indent

def plainGap? (indent : Int) (fuel : Nat) (gap : Gap) (cursor : Cursor) : Option (Gap × Cursor) :=
  match fuel with
  | 0 => none
  | fuel + 1 =>
    if tabTooLeft indent gap cursor then none
    else
      let (blanks, cursor) := cursor.takeWhile isGap
      let gap := if gap.brokeLine then gap else { gap with blanks := gap.blanks ++ blanks }
      if cursor.atChar isBreak then
        let (text, cursor) := cursor.lineBreak
        let gap := match gap.first with
          | none => ⟨[], some text, []⟩
          | some _ => { gap with later := gap.later ++ text }
        plainGap? indent fuel gap cursor
      else some (gap, cursor)

/-- A plain scalar from `text` on, the white space read behind it, and whether that ends a line. -/
def plainFrom? (inFlow : Bool) (indent : Int) (fuel : Nat) (text : List Char) (gap : Gap)
    (cursor : Cursor) : Option (List Char × Bool × Cursor) :=
  match fuel with
  | 0 => none
  | fuel + 1 =>
    if cursor.atDocumentMarker || cursor.atChar (· == '#') then some (text, gap.brokeLine, cursor)
    else do
      let (run, cursor) ← plainRun? inFlow (cursor.rest.length + 1) [] cursor
      let (text, gap) := if run.isEmpty then (text, gap) else (text ++ gap.folded ++ run, .none)
      if !cursor.atChar (fun c => isGap c || isBreak c) then some (text, gap.brokeLine, cursor)
      else
        let (gap, cursor) ← plainGap? indent (cursor.rest.length + 1) gap cursor
        if !inFlow && (cursor.column : Int) < indent then some (text, gap.brokeLine, cursor)
        else plainFrom? inFlow indent fuel text gap cursor

def plain? (inFlow : Bool) (indent : Int) (cursor : Cursor) :
    Option (List Char × Bool × Cursor) :=
  plainFrom? inFlow (indent + 1) (cursor.rest.length + 2) [] .none cursor

inductive Chomp where
  | strip
  | clip
  | keep
  deriving Repr, DecidableEq

def chomp? : Char → Option Chomp
  | '+' => some .keep
  | '-' => some .strip
  | _ => none

def increment? (c : Char) : Option Nat :=
  if '1' ≤ c ∧ c ≤ '9' then some (c.toNat - 48) else none

def blockHeader (cursor : Cursor) : Chomp × Option Nat × Cursor :=
  match cursor.char?.bind chomp? with
  | some chomp =>
    match cursor.next.char?.bind increment? with
    | some increment => (chomp, some increment, cursor.skip 2)
    | none => (chomp, none, cursor.next)
  | none =>
    match cursor.char?.bind increment? with
    | some increment =>
      match cursor.next.char?.bind chomp? with
      | some chomp => (chomp, some increment, cursor.skip 2)
      | none => (.clip, some increment, cursor.next)
    | none => (.clip, none, cursor)

/-- The empty lines in front of a line of a block, and the deepest indentation met. Without a known
indentation all spaces count as such. -/
def emptyLines? (indent : Option Nat) (fuel : Nat) (breaks : List Char) (deepest : Nat)
    (cursor : Cursor) : Option (List Char × Nat × Cursor) :=
  match fuel with
  | 0 => none
  | fuel + 1 =>
    let spaces := (cursor.rest.takeWhile (· == ' ')).length
    let room := match indent with
      | none => spaces
      | some indent => min spaces (indent - cursor.column)
    let cursor := cursor.skip room
    let deepest := max deepest cursor.column
    if indent.all (cursor.column < ·) && cursor.atChar (· == '\t') then none
    else if cursor.atChar isBreak then
      let (text, cursor) := cursor.lineBreak
      emptyLines? indent fuel (breaks ++ text) deepest cursor
    else some (breaks, deepest, cursor)

/-- What joins two lines of a block: in a folded one a single line end between lines that do not
start with a blank becomes a space. -/
def blockJoin (folds : Bool) (leading trailing : List Char) (blankBefore blankAfter : Bool) :
    List Char :=
  if folds && leading.head? = some '\n' && !blankBefore && !blankAfter then
    (if trailing.isEmpty then [' '] else []) ++ trailing
  else leading ++ trailing

def blockLines? (folds : Bool) (indent : Nat) (fuel : Nat) (text leading trailing : List Char)
    (blankBefore : Bool) (cursor : Cursor) :
    Option (List Char × List Char × List Char × Cursor) :=
  match fuel with
  | 0 => none
  | fuel + 1 =>
    if cursor.column ≠ indent || cursor.atEnd then some (text, leading, trailing, cursor)
    else do
      let blank := cursor.atChar isGap
      let (line, cursor) := cursor.takeWhile (!isBreak ·)
      let text := text ++ blockJoin folds leading trailing blankBefore blank ++ line
      let (leading, cursor) := cursor.lineBreak
      let (trailing, _, cursor) ←
        emptyLines? (some indent) (cursor.rest.length + 1) [] 0 cursor
      blockLines? folds indent fuel text leading trailing blank cursor

def block? (folds : Bool) (parent : Int) (cursor : Cursor) : Option (List Char × Cursor) := do
  let (chomp, increment, cursor) := blockHeader cursor.next
  let cursor := cursor.skipWhile isGap
  let cursor := if cursor.atChar (· == '#') then cursor.skipWhile (!isBreak ·) else cursor
  if !cursor.atLineEnd then none
  let cursor := cursor.lineBreak.2
  let given := increment.map fun increment => (if 0 ≤ parent then parent.toNat else 0) + increment
  let (breaks, deepest, cursor) ← emptyLines? given (cursor.rest.length + 1) [] 0 cursor
  let indent := given.getD (max (max deepest (parent + 1).toNat) 1)
  let (text, leading, trailing, cursor) ←
    blockLines? folds indent (cursor.rest.length + 1) [] [] breaks false cursor
  let final := match chomp with
    | .strip => []
    | .clip => leading
    | .keep => leading ++ trailing
  some (text ++ final, cursor)

end RhythmBot.Yaml
