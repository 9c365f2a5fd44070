import RhythmBot.Json.Reader
/-!
Reading typed values out of a JSON document.
-/

namespace RhythmBot.Json

def text? : Json → Option String
  | .string text => text
  | _ => none

def bool? : Json → Option Bool
  | .bool value => some value
  | _ => none

def number? : Json → Option Number
  | .number literal => literal.value?
  | _ => none

def natural? (largest : Nat) (json : Json) : Option Nat :=
  match json.number? with
  | some (.natural n) => if n ≤ largest then some n else none
  | _ => none

def float? (json : Json) : Option Float :=
  json.number?.map Number.toFloat

def nullable? {α : Type} (decode : Json → Option α) : Json → Option (Option α)
  | .null => some none
  | json => (decode json).map some

def list? {α : Type} (decode : Json → Option α) : Json → Option (List α)
  | .array items => items.mapM decode
  | _ => none

/-- The members of an object as a table; of two under one key the later stays. -/
def table? {α : Type} (decode : Json → Option α) : Json → Option (Table α)
  | .object members => do
    let entries ← members.mapM fun (name, value) => do
      let name ← name
      let value ← decode value
      some (name, value)
    some (Table.ofList entries)
  | _ => none

inductive Field where
  | given (json : Json)
  | leftOut
  | cutOff

def Field.required? {α : Type} (decode : Json → Option α) : Field → Option α
  | .given json => decode json
  | .leftOut => none
  | .cutOff => none

/-- A field that may be `null`; an object may also leave it out. -/
def Field.optional? {α : Type} (decode : Json → Option α) : Field → Option (Option α)
  | .given json => nullable? decode json
  | .leftOut => some none
  | .cutOff => none

def Field.withDefault? {α : Type} (fallback : α) (decode : Json → Option α) : Field → Option α
  | .given json => decode json
  | .leftOut => some fallback
  | .cutOff => some fallback

def member? (members : List (String × Json)) (name : String) : Option Field :=
  match members.filter fun member => member.1 == name with
  | [] => some .leftOut
  | [(_, json)] => some (.given json)
  | _ => none

/-- The fields of a record in the order of `names`. An object gives them by name and may hold
others besides; an array gives them by position and may end early. -/
def fields? (names : List String) : Json → Option (List Field)
  | .object members => do
    let members ← members.mapM fun (name, value) => name.map (·, value)
    names.mapM (member? members)
  | .array items =>
    if names.length < items.length then none
    else
      some (items.map .given ++ List.replicate (names.length - items.length) .cutOff)
  | _ => none

end RhythmBot.Json
