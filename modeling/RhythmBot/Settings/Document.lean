import RhythmBot.Settings.Numeral
import RhythmBot.Settings.Path
import RhythmBot.Yaml.Node
/-!
Settings out of a YAML document.
-/

namespace RhythmBot.Settings

open Yaml

def flag? (text : String) : Option Bool :=
  if ["true", "True", "TRUE"].contains text then some true
  else if ["false", "False", "FALSE"].contains text then some false
  else none

def isNothing (text : String) : Bool := ["null", "Null", "NULL", "~"].contains text

def specialNumbers : List String :=
  [".inf", ".Inf", ".INF", "+.inf", "+.Inf", "+.INF", "-.inf", "-.Inf", "-.INF", ".nan", ".NaN",
    ".NAN"]

def isReal (text : String) : Bool :=
  specialNumbers.contains text || ((decimal? text.toList).bind Json.Literal.value?).isSome

def ofPlain (text : String) : Setting :=
  if text.isEmpty || isNothing text then .empty
  else
    match flag? text with
    | some value => .flag value
    | none =>
      match whole? text.toList with
      | some n => .whole n
      | none => if !isPadded text.toList && isReal text then .real else .text text

/-- What a node with a tag stands for: a tag of the document's own is a path to what is tagged,
which ends at an empty part. -/
def underTag (tag : Option Tag) (setting : Setting) : Setting :=
  match tag.bind Tag.ownName? with
  | some name =>
    nested setting (((pathOf name.toList).takeWhile (!·.isEmpty)).map String.ofList)
  | none => setting

def ofScalar? (tag : Option Tag) (isPlain : Bool) (text : String) : Option Setting :=
  let untagged := if isPlain then ofPlain text else .text text
  match tag with
  | none => some untagged
  | some tag =>
    if tag.isOwn then some (underTag (some tag) untagged)
    else if tag = .core "bool" then (flag? text).map .flag
    else if tag = .core "int" then (whole? text.toList).map .whole
    else if tag = .core "float" then if isReal text then some .real else none
    else if tag = .core "null" then if isNothing text then some .empty else none
    else some (.text text)

def deepest : Nat := 128

/-- How often references may be followed for every mark that a document is written with. -/
def followedPerMark : Nat := 100

def valueKey : String := "___figment_value_value"

def serialKey : String := "___figment_value_id"

abbrev Reading := StateT Nat Option

def giveUp {α : Type} : Reading α := StateT.lift none

def follow (document : Document) : Node → Reading Node
  | .reference number => do
    match ← get with
    | 0 => giveUp
    | left + 1 =>
      set left
      StateT.lift (document.numbered? number)
  | node => return node

def readKey (document : Document) (key : Node) : Reading String := do
  match ← follow document key with
  | .scalar _ _ text => return text
  | _ => giveUp

def readSerial (document : Document) (node : Node) : Reading Unit := do
  match ← follow document node with
  | .scalar tag isPlain text =>
    match tag.bind Tag.ownName?, ofScalar? tag isPlain text with
    | none, some (.whole n) =>
      if text.toList.head? == some '-' || Json.largestWord < n then giveUp
    | _, _ => giveUp
  | _ => giveUp

/-- The table of some entries, of which later ones count, or what it stands for. -/
def ofEntries (entries : List (String × Setting)) : Setting :=
  let table := entries.foldl (fun table entry => putEntry entry.1 entry.2 table) []
  (entryValue? valueKey table).getD (.table table)

def readNode (document : Document) (room : Nat) (node : Node) : Reading Setting := do
  match room, ← follow document node with
  | _, .scalar tag isPlain text => StateT.lift (ofScalar? tag isPlain text)
  | room + 1, .sequence tag items =>
    return underTag tag (.list (← items.mapM (readNode document room)))
  | room + 1, .mapping tag entries => do
    let entries ← entries.mapM fun (key, value) => do
      let name ← readKey document key
      if name = serialKey then
        readSerial document value
        return none
      return some (name, ← readNode document room value)
    return underTag tag (ofEntries (entries.filterMap id))
  | _, _ => giveUp

/-- The table at the root of a document, where no key and no tag has a meaning of its own. -/
def readRoot (document : Document) (entries : List (Node × Node)) : Reading Setting := do
  let entries ← entries.mapM fun (key, value) =>
    return (← readKey document key, ← readNode document (deepest - 1) value)
  return .table (entries.foldl (fun table entry => putEntry entry.1 entry.2 table) [])

/-- The table of a document's text. A document without content is an empty table, and any other one
has to be a mapping. -/
def ofDocument (text : String) : Except SettingsError Setting :=
  match Document.ofText? text with
  | some none => .ok (.table [])
  | some (some ⟨.scalar _ true "", _⟩) => .ok (.table [])
  | some (some document) =>
    match document.root with
    | .mapping _ entries =>
      match (readRoot document entries).run (followedPerMark * document.root.size) with
      | some (setting, _) => .ok setting
      | none => .error .unreadable
    | _ => .error .unreadable
  | none => .error .unreadable

def ofFile : Option String → Except SettingsError Setting
  | none => .ok (.table [])
  | some text => ofDocument text

end RhythmBot.Settings
