import RhythmBot.Table
/-!
Settings as a tree, how one tree lies over another, and reading typed values out of a tree.
-/

namespace RhythmBot

/-- A setting. No setting takes a number that is not whole, so the value of one is not kept. -/
inductive Setting where
  | empty
  | flag (value : Bool)
  | whole (n : Int)
  | real
  | text (text : String)
  | list (items : List Setting)
  | table (entries : List (String × Setting))
  deriving Inhabited

/-- Why settings cannot be used: a field is missing, a value has the wrong type or is not allowed,
the settings cannot be read at all, or the text in front of an escape would end inside a character.
-/
inductive SettingsError where
  | missingField
  | invalidValue
  | unreadable
  | cutCharacter
  deriving Repr, DecidableEq

namespace Setting

mutual

/-- A setting with a later one over it: tables are merged, anything else gives way. -/
def under : Setting → Setting → Setting
  | .table old, .table later => .table (underEntries old later)
  | _, later => later

def underEntries (old : List (String × Setting)) :
    List (String × Setting) → List (String × Setting)
  | [] => old
  | (name, later) :: rest =>
    let value := match entryValue? name old with
      | some setting => under setting later
      | none => later
    underEntries (putEntry name value old) rest

end

def asText : Setting → Except SettingsError String
  | .text value => .ok value
  | _ => .error .invalidValue

def asChar : Setting → Except SettingsError Char
  | .text value =>
    match value.toList with
    | [c] => .ok c
    | _ => .error .invalidValue
  | _ => .error .invalidValue

def asFlag : Setting → Except SettingsError Bool
  | .flag value => .ok value
  | _ => .error .invalidValue

def asNatural (largest : Nat) : Setting → Except SettingsError Nat
  | .whole n => if 0 ≤ n ∧ n ≤ largest then .ok n.toNat else .error .invalidValue
  | _ => .error .invalidValue

def asOption {α : Type} (decode : Setting → Except SettingsError α) :
    Setting → Except SettingsError (Option α)
  | .empty => .ok none
  | setting => (decode setting).map some

def asList {α : Type} (decode : Setting → Except SettingsError α) :
    Setting → Except SettingsError (List α)
  | .list items => items.mapM decode
  | _ => .error .invalidValue

inductive Field where
  | given (setting : Setting)
  | leftOut
  | cutOff

def Field.value {α : Type} (decode : Setting → Except SettingsError α) :
    Field → Except SettingsError (Option α)
  | .given setting => (decode setting).map some
  | _ => .ok none

def Field.require {α : Type} : Field → Option α → Except SettingsError α
  | _, some value => .ok value
  | .cutOff, none => .error .invalidValue
  | _, none => .error .missingField

/-- The fields of a record in the order of `names`: by name in a table, by position in a list, which
may end early. -/
def fields (names : List String) : Setting → Except SettingsError (List Field)
  | .table entries =>
    .ok (names.map fun name => ((entryValue? name entries).map .given).getD .leftOut)
  | .list items =>
    .ok ((items.take names.length).map .given ++
      List.replicate (names.length - items.length) .cutOff)
  | _ => .error .invalidValue

end Setting

end RhythmBot
