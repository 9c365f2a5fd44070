import RhythmBot.Table
import RhythmBot.Yaml.Token
/-!
The tree of a YAML document, and the nodes that references stand for.
-/

namespace RhythmBot.Yaml

inductive Node where
  | scalar (tag : Option Tag) (isPlain : Bool) (text : String)
  | sequence (tag : Option Tag) (items : List Node)
  | mapping (tag : Option Tag) (entries : List (Node × Node))
  | reference (number : Nat)
  deriving Inhabited

/-- A document: its tree, and the nodes that have a number, the one that starts last in front. -/
structure Document where
  root : Node
  numbered : List (Nat × Node)
  deriving Inhabited

namespace Node

def empty : Node := .scalar none true ""

mutual

/-- The number of marks that a node is written with: one for a scalar or a reference, and two around
the content of a collection. -/
def size : Node → Nat
  | .scalar _ _ _ => 1
  | .reference _ => 1
  | .sequence _ items => 2 + sizeOfItems items
  | .mapping _ entries => 2 + sizeOfEntries entries

def sizeOfItems : List Node → Nat
  | [] => 0
  | item :: rest => item.size + sizeOfItems rest

def sizeOfEntries : List (Node × Node) → Nat
  | [] => 0
  | (key, value) :: rest => key.size + value.size + sizeOfEntries rest

end

/-- What is left to read, the text of each tag handle, the number of each anchor's name, and the
nodes that have a number, the latest one first. There is no such node while it is being read. -/
structure Source where
  tokens : List Token
  handles : List (String × Tag)
  names : List (String × Nat)
  numbered : List (Nat × Option Node)

abbrev Read := StateT Source Option

def next : Read (Option Token) := return (← get).tokens.head?

def advance : Read Unit := modify fun source => { source with tokens := source.tokens.tail }

def fail {α : Type} : Read α := StateT.lift none

def nextIs (holds : Token → Bool) : Read Bool := return (← next).any holds

def tagOf (handle : String) (text : Tag) : Read Tag := do
  if handle.isEmpty then return text
  match (← get).handles.find? fun entry => entry.1 == handle with
  | some (_, front) => return front ++ text
  | none => fail

def properties (fuel : Nat) (anchor : Option String) (tag : Option Tag) :
    Read (Option String × Option Tag) := do
  match fuel with
  | 0 => return (anchor, tag)
  | fuel + 1 =>
    match ← next, anchor, tag with
    | some (.anchor name), none, tag =>
      advance
      properties fuel (some name) tag
    | some (.tag handle text), anchor, none =>
      let found ← tagOf handle text
      advance
      properties fuel anchor (some found)
    | _, anchor, tag => return (anchor, tag)

/-- Gives a number to an anchor whose node is yet to be read; returns how many nodes have got one
before. The number is that of the names known so far, so a name that comes again shares its number
with the next new name. -/
def openAnchor (name : Option String) : Read (Option Nat) := do
  match name with
  | none => return none
  | some name =>
    let source ← get
    let number := source.names.length
    set { source with
      names := putEntry name number source.names
      numbered := (number, none) :: source.numbered }
    return some source.numbered.length

def fillAnchor (before : Option Nat) (node : Node) : Read Unit := do
  match before with
  | none => return
  | some before =>
    modify fun source =>
      let place := source.numbered.length - 1 - before
      { source with
        numbered := source.numbered.modify place fun entry => (entry.1, some node) }

def referred (name : String) : Read Node := do
  match entryValue? name (← get).names with
  | some number => return .reference number
  | none => fail

def endsBlockItem : Token → Bool
  | .dash => true
  | .blockEnd => true
  | _ => false

def endsBlockPart : Token → Bool
  | .key => true
  | .value => true
  | .blockEnd => true
  | _ => false

def endsSequencePart : Token → Bool
  | .value => true
  | .comma => true
  | .flowSequenceEnd => true
  | _ => false

def endsMappingPart : Token → Bool
  | .value => true
  | .comma => true
  | .flowMappingEnd => true
  | _ => false

def endsDocument : Token → Bool
  | .version _ _ => true
  | .tagPrefix _ _ => true
  | .documentStart => true
  | .documentEnd => true
  | _ => false

mutual

/-- A node. Block collections stand in block context only; a sequence that is the value of a key may
do without an indentation of its own. -/
def node (fuel : Nat) (inBlock indentless : Bool) : Read Node := do
  match fuel with
  | 0 => fail
  | fuel + 1 =>
    match ← next with
    | some (.reference name) =>
      advance
      referred name
    | _ =>
      let (anchor, tag) ← properties 2 none none
      let before ← openAnchor anchor
      let found ← content fuel inBlock indentless tag (anchor.isSome || tag.isSome)
      fillAnchor before found
      return found

def content (fuel : Nat) (inBlock indentless : Bool) (tag : Option Tag) (optional : Bool) :
    Read Node := do
  match fuel with
  | 0 => fail
  | fuel + 1 =>
    match ← next, inBlock with
    | some (.scalar isPlain text), _ =>
      advance
      return .scalar tag isPlain text
    | some .flowSequence, _ =>
      advance
      return .sequence tag (← flowItems fuel true)
    | some .flowMapping, _ =>
      advance
      return .mapping tag (← flowEntries fuel true)
    | some .blockSequence, true =>
      advance
      let items ← dashItems fuel endsBlockItem
      if !(← nextIs (· == .blockEnd)) then fail
      advance
      return .sequence tag items
    | some .blockMapping, true =>
      advance
      return .mapping tag (← blockEntries fuel)
    | found, _ =>
      if indentless && found == some .dash then
        return .sequence tag (← dashItems fuel fun token => token == .dash || endsBlockPart token)
      if optional then return .scalar tag true ""
      fail

def dashItems (fuel : Nat) (endsItem : Token → Bool) : Read (List Node) := do
  match fuel with
  | 0 => fail
  | fuel + 1 =>
    if !(← nextIs (· == .dash)) then return []
    advance
    let item ← if ← nextIs endsItem then pure empty else node fuel true false
    return item :: (← dashItems fuel endsItem)

def blockPart (fuel : Nat) : Read Node := do
  match fuel with
  | 0 => fail
  | fuel + 1 => if ← nextIs endsBlockPart then return empty else node fuel true true

def blockEntries (fuel : Nat) : Read (List (Node × Node)) := do
  match fuel with
  | 0 => fail
  | fuel + 1 =>
    match ← next with
    | some .blockEnd =>
      advance
      return []
    | some .key =>
      advance
      let key ← blockPart fuel
      let value ←
        if ← nextIs (· == .value) then do
          advance
          blockPart fuel
        else pure empty
      return (key, value) :: (← blockEntries fuel)
    | _ => fail

def flowItems (fuel : Nat) (first : Bool) : Read (List Node) := do
  match fuel with
  | 0 => fail
  | fuel + 1 =>
    if ← nextIs (· == .flowSequenceEnd) then
      advance
      return []
    if !first then
      if !(← nextIs (· == .comma)) then fail
      advance
    match ← next with
    | some .flowSequenceEnd =>
      advance
      return []
    | some .key =>
      advance
      let item ← flowPair fuel
      return item :: (← flowItems fuel false)
    | _ =>
      let item ← node fuel false false
      return item :: (← flowItems fuel false)

/-- A pair in a flow sequence, which is a mapping of its own. An empty key takes the token behind it
along. -/
def flowPair (fuel : Nat) : Read Node := do
  match fuel with
  | 0 => fail
  | fuel + 1 =>
    let key ←
      if ← nextIs endsSequencePart then do
        advance
        pure empty
      else node fuel false false
    let value ←
      if ← nextIs (· == .value) then do
        advance
        if ← nextIs fun token => token == .comma || token == .flowSequenceEnd then pure empty
        else node fuel false false
      else pure empty
    return .mapping none [(key, value)]

def flowEntries (fuel : Nat) (first : Bool) : Read (List (Node × Node)) := do
  match fuel with
  | 0 => fail
  | fuel + 1 =>
    if ← nextIs (· == .flowMappingEnd) then
      advance
      return []
    if !first then
      if !(← nextIs (· == .comma)) then fail
      advance
    match ← next with
    | some .flowMappingEnd =>
      advance
      return []
    | some .key =>
      advance
      let key ← if ← nextIs endsMappingPart then pure empty else node fuel false false
      let value ←
        if ← nextIs (· == .value) then do
          advance
          if ← nextIs fun token => token == .comma || token == .flowMappingEnd then pure empty
          else node fuel false false
        else pure empty
      return (key, value) :: (← flowEntries fuel false)
    | _ =>
      let key ← node fuel false false
      return (key, empty) :: (← flowEntries fuel false)

end

def knownHandles : List (String × Tag) := [("!", .bare), ("!!", .coreFront)]

/-- Whether directives give no version or one that is known, once, and no handle twice. -/
def areValid (versions : List (Nat × Nat)) (handles : List (String × Tag)) : Bool :=
  versions.length ≤ 1 && versions.all (fun version => version == (1, 1) || version == (1, 2)) &&
    (handles.map Prod.fst).Nodup

def version? : Token → Option (Nat × Nat)
  | .version major minor => some (major, minor)
  | _ => none

def handle? : Token → Option (String × Tag)
  | .tagPrefix handle text => some (handle, text)
  | _ => none

def isDirective (token : Token) : Bool := (version? token).isSome || (handle? token).isSome

def documentStart : Read Bool := do
  let source ← get
  let directives := source.tokens.takeWhile isDirective
  let handles := directives.filterMap handle?
  if !areValid (directives.filterMap version?) handles then fail
  set { source with
    tokens := source.tokens.drop directives.length, handles := handles ++ source.handles }
  if ← nextIs (· == .documentStart) then
    advance
    return true
  if directives.isEmpty then return false
  fail

def document (fuel : Nat) : Read (Option Node) := do
  if (← next).isNone then return none
  let explicit ← documentStart
  let found ←
    if explicit && (← next).all endsDocument then pure empty else node fuel true false
  modify fun source => { source with tokens := source.tokens.dropWhile (· == .documentEnd) }
  if (← next).isSome then fail
  return some found

end Node

namespace Document

def ofText? (text : String) : Option (Option Document) := do
  let tokens ← tokens? text
  let (found, source) ←
    (Node.document (4 * tokens.length + 8)).run ⟨tokens, Node.knownHandles, [], []⟩
  some (found.map fun root =>
    ⟨root, source.numbered.filterMap fun (number, node) => node.map (number, ·)⟩)

def numbered? (document : Document) (number : Nat) : Option Node :=
  (document.numbered.find? fun entry => entry.1 == number).map Prod.snd

end Document

end RhythmBot.Yaml
