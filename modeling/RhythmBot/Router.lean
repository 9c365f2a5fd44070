import RhythmBot.Table
/-!
Routing tables: values that are found under any of several aliases.
-/

namespace RhythmBot

inductive RegistryError where
  | duplicateAlias (name : String)
  | noAlias
  deriving Repr, DecidableEq

def RegistryError.message : RegistryError → String
  | .duplicateAlias name => "alias '" ++ name ++ "' is registered twice"
  | .noAlias => "a value must be registered with at least one alias"

/-- Values in the order of their registration, and the position of the value of each alias. -/
structure Router (α : Type) where
  positions : Table Nat
  values : List α

namespace Router

variable {α : Type}

def empty : Router α := ⟨.empty, []⟩

def position? (router : Router α) (name : String) : Option Nat :=
  router.positions.find? name

def route? (router : Router α) (name : String) : Option α :=
  (router.position? name).bind fun position => router.values[position]?

def conflict? (bound : String → Bool) : List String → Option String
  | [] => none
  | name :: rest =>
    if bound name then some name
    else conflict? (fun other => other == name || bound other) rest

def bind (positions : Table Nat) (position : Nat) (names : List String) : Table Nat :=
  names.foldl (fun table name => table.insert name position) positions

def register (router : Router α) (names : List String) (value : α) :
    Except RegistryError (Router α) :=
  if names.isEmpty then .error .noAlias
  else
    match conflict? (fun name => (router.position? name).isSome) names with
    | some name => .error (.duplicateAlias name)
    | none =>
      .ok ⟨bind router.positions router.values.length names, router.values ++ [value]⟩

theorem find?_bind (positions : Table Nat) (position : Nat) (names : List String) (name : String) :
    (bind positions position names).find? name =
      if name ∈ names then some position else positions.find? name := by
  unfold bind
  induction names generalizing positions with
  | nil => simp
  | cons first rest ih =>
    rw [List.foldl_cons, ih]
    by_cases later : name ∈ rest <;> by_cases same : name = first <;> simp [later, same]

end Router

end RhythmBot
