import RhythmBot.Proofs.Router
import RhythmBot.Proofs.Table
/-!
A router that is filled by registrations one after the other, of which any may fail. Main statement:
it holds exactly what the registrations that succeeded put there, and these alone decide what comes of
the next one.
-/

namespace RhythmBot.Router

structure Registration (α : Type) where
  names : List String
  value : α

variable {α : Type} {router after : Router α} {names : List String} {value : α}
  {made : List (Registration α)}

def perform (router : Router α) (registration : Registration α) :
    Option RegistryError × Router α :=
  match router.register registration.names registration.value with
  | .ok after => (none, after)
  | .error failure => (some failure, router)

def run : Router α → List (Registration α) → Router α
  | router, [] => router
  | router, registration :: later => run (router.perform registration).2 later

def successes : Router α → List (Registration α) → List (Registration α)
  | _, [] => []
  | router, registration :: later =>
    match router.perform registration with
    | (none, after) => registration :: successes after later
    | (some _, after) => successes after later

def Bound (made : List (Registration α)) (name : String) : Prop :=
  ∃ registration ∈ made, name ∈ registration.names

structure Fresh (made : List (Registration α)) (names : List String) : Prop where
  once : names.Nodup
  unbound : ∀ name ∈ names, ¬ Bound made name

/-- What comes of a registration under some aliases after others were made. The first alias that is
bound already or repeats an earlier one of the same list is the one reported. -/
inductive Verdict (made : List (Registration α)) : List String → Option RegistryError → Prop
  | noAlias : Verdict made [] (some .noAlias)
  | duplicate {earlier later : List String} {name : String} :
      Fresh made earlier →
      Bound made name ∨ name ∈ earlier →
      Verdict made (earlier ++ name :: later) (some (.duplicateAlias name))
  | success {names : List String} : names ≠ [] → Fresh made names → Verdict made names none

/-- A router holds the values of registrations, each at the position that its aliases lead to. -/
structure Holds (made : List (Registration α)) (router : Router α) : Prop where
  values : router.values = made.map Registration.value
  positions : ∀ name position, router.position? name = some position ↔
    ∃ registration, made[position]? = some registration ∧ name ∈ registration.names

theorem holds_empty : Holds [] (empty : Router α) := by
  refine ⟨rfl, fun name position => ?_⟩
  constructor
  · intro found
    cases found
  · rintro ⟨registration, there, _⟩
    cases there

theorem Holds.length (holds : Holds made router) : router.values.length = made.length := by
  rw [holds.values, List.length_map]

theorem Holds.isSome_position? (holds : Holds made router) (name : String) :
    (router.position? name).isSome = true ↔ Bound made name := by
  rw [Option.isSome_iff_exists]
  constructor
  · rintro ⟨position, found⟩
    obtain ⟨registration, there, listed⟩ := (holds.positions name position).1 found
    exact ⟨registration, List.mem_of_getElem? there, listed⟩
  · rintro ⟨registration, member, listed⟩
    obtain ⟨position, there⟩ := List.mem_iff_getElem?.1 member
    exact ⟨position, (holds.positions name position).2 ⟨registration, there, listed⟩⟩

theorem getElem?_concat {new registration : Registration α} {position : Nat} :
    (made ++ [new])[position]? = some registration ↔
      made[position]? = some registration ∨ position = made.length ∧ new = registration := by
  rw [List.getElem?_append]
  split
  · rename_i within
    exact ⟨.inl, fun there => there.resolve_right fun last => absurd last.1 (by omega)⟩
  · rename_i beyond
    have none : made[position]? = none := List.getElem?_eq_none (by omega)
    rw [none, List.getElem?_singleton]
    by_cases last : position = made.length
    · simp [last]
    · simp [last, show position - made.length ≠ 0 by omega]

/-- A successful registration comes behind those made before. -/
theorem Holds.register (holds : Holds made router)
    (registered : router.register names value = .ok after) :
    Holds (made ++ [⟨names, value⟩]) after := by
  obtain ⟨fresh, positions, values⟩ := register_eq_ok registered
  refine ⟨by rw [values, holds.values, List.map_append]; rfl, fun name position => ?_⟩
  have looked : after.position? name =
      if name ∈ names then some made.length else router.position? name := by
    unfold position?
    rw [positions, find?_bind, holds.length]
  have there : (∃ registration, (made ++ [⟨names, value⟩])[position]? = some registration ∧
      name ∈ registration.names) ↔
      router.position? name = some position ∨ position = made.length ∧ name ∈ names := by
    constructor
    · rintro ⟨registration, found, listed⟩
      rcases getElem?_concat.1 found with old | ⟨last, rfl⟩
      · exact .inl ((holds.positions name position).2 ⟨registration, old, listed⟩)
      · exact .inr ⟨last, listed⟩
    · rintro (found | ⟨last, listed⟩)
      · obtain ⟨registration, old, listed⟩ := (holds.positions name position).1 found
        exact ⟨registration, getElem?_concat.2 (.inl old), listed⟩
      · exact ⟨_, getElem?_concat.2 (.inr ⟨last, rfl⟩), listed⟩
  rw [looked, there]
  by_cases listed : name ∈ names
  -- A new alias led nowhere before.
  · simp [listed, fresh name listed, eq_comm]
  · simp [listed]

theorem Holds.run (holds : Holds made router) (registrations : List (Registration α)) :
    Holds (made ++ router.successes registrations) (router.run registrations) := by
  induction registrations generalizing made router with
  | nil =>
    rw [successes, List.append_nil]
    exact holds
  | cons registration later ih =>
    unfold successes Router.run perform
    cases registered : router.register registration.names registration.value with
    | error failure => exact ih holds
    | ok after =>
      have whole := ih (holds.register registered)
      rwa [List.append_assoc, List.singleton_append] at whole

theorem conflict?_eq_some {bound : String → Bool} {name : String} :
    conflict? bound names = some name ↔
      ∃ earlier later, names = earlier ++ name :: later ∧ conflict? bound earlier = none ∧
        (bound name = true ∨ name ∈ earlier) := by
  induction names generalizing bound with
  | nil => simp [conflict?]
  | cons first rest ih =>
    cases taken : bound first with
    | true =>
      rw [conflict?_cons_of_bound taken]
      constructor
      · intro same
        cases same
        exact ⟨[], rest, rfl, rfl, .inl taken⟩
      · rintro ⟨_ | ⟨head, earlier⟩, later, split, free, _⟩
        · cases split
          rfl
        · cases split
          rw [conflict?_cons_of_bound taken] at free
          cases free
    | false =>
      rw [conflict?_cons_of_free taken, ih]
      constructor
      · rintro ⟨earlier, later, rfl, free, conflicting⟩
        refine ⟨first :: earlier, later, rfl, ?_, ?_⟩
        · rw [conflict?_cons_of_free taken, free]
        · rcases conflicting with bound | repeated
          · rcases Bool.or_eq_true_iff.1 bound with same | bound
            · exact .inr (by rw [eq_of_beq same]; exact List.mem_cons_self)
            · exact .inl bound
          · exact .inr (List.mem_cons_of_mem first repeated)
      · rintro ⟨_ | ⟨head, earlier⟩, later, split, free, conflicting⟩
        · cases split
          rcases conflicting with bound | repeated
          · rw [taken] at bound
            cases bound
          · cases repeated
        · cases split
          rw [conflict?_cons_of_free taken] at free
          refine ⟨earlier, later, rfl, free, ?_⟩
          rcases conflicting with bound | repeated
          · exact .inl (Bool.or_eq_true_iff.2 (.inr bound))
          · rcases List.mem_cons.1 repeated with rfl | repeated
            · exact .inl (Bool.or_eq_true_iff.2 (.inl (beq_self_eq_true name)))
            · exact .inr repeated

theorem Holds.conflict?_eq_none (holds : Holds made router) :
    conflict? (fun name => (router.position? name).isSome) names = none ↔ Fresh made names := by
  rw [Router.conflict?_eq_none]
  constructor
  · rintro ⟨once, free⟩
    refine ⟨once, fun name listed bound => ?_⟩
    have taken := (holds.isSome_position? name).2 bound
    rw [free name listed] at taken
    cases taken
  · rintro ⟨once, unbound⟩
    refine ⟨once, fun name listed => Bool.eq_false_iff.2 fun taken => ?_⟩
    exact unbound name listed ((holds.isSome_position? name).1 taken)

theorem perform_failure (router : Router α) (registration : Registration α) :
    (router.perform registration).1 =
      if registration.names = [] then some .noAlias
      else (conflict? (fun name => (router.position? name).isSome) registration.names).map
        .duplicateAlias := by
  unfold perform register
  cases registration.names with
  | nil => rfl
  | cons first rest =>
    simp only [List.isEmpty_cons, Bool.false_eq_true, if_false, reduceCtorEq]
    cases conflict? (fun name => (router.position? name).isSome) (first :: rest) <;> rfl

/-- What a registration reports is decided by those made before. -/
theorem Holds.verdict_iff (holds : Holds made router) (registration : Registration α)
    (failure : Option RegistryError) :
    (router.perform registration).1 = failure ↔ Verdict made registration.names failure := by
  rw [perform_failure]
  generalize registration.names = names
  constructor
  · rintro rfl
    by_cases empty : names = []
    · rw [if_pos empty, empty]
      exact .noAlias
    · rw [if_neg empty]
      cases found : conflict? (fun name => (router.position? name).isSome) names with
      | none => exact .success empty (holds.conflict?_eq_none.1 found)
      | some name =>
        obtain ⟨earlier, later, rfl, free, conflicting⟩ := conflict?_eq_some.1 found
        rw [holds.isSome_position?] at conflicting
        exact .duplicate (holds.conflict?_eq_none.1 free) conflicting
  · intro verdict
    cases verdict with
    | noAlias => rfl
    | @duplicate earlier later name fresh conflicting =>
      rw [← holds.isSome_position?] at conflicting
      have found := conflict?_eq_some.2
        ⟨earlier, later, rfl, holds.conflict?_eq_none.2 fresh, conflicting⟩
      rw [if_neg (by simp), found]
      rfl
    | success filled fresh =>
      rw [if_neg filled, holds.conflict?_eq_none.2 fresh]
      rfl

example :
    ((empty.run [⟨["top", "t"], 1⟩]).perform ⟨["recent", "t", "top"], 2⟩).1 =
      some (.duplicateAlias "t") := by
  decide

/-- What a router is after registrations of which some were successful. -/
structure Registered (made : List (Registration α)) (router : Router α) : Prop where
  /-- An alias leads to the value of the registration that has it. -/
  routes : ∀ name value, router.route? name = some value ↔
    ∃ registration ∈ made, name ∈ registration.names ∧ registration.value = value
  /-- No two of them have an alias in common. -/
  apart : made.Pairwise fun first second => ∀ name ∈ first.names, name ∉ second.names
  values : router.values = made.map Registration.value
  /-- Every position that is stored is one of a value, so the look-up of an alias finds it there. -/
  within : ∀ name position, (name, position) ∈ router.positions.entries →
    ∃ bounded : position < router.values.length, router.route? name = some router.values[position]
  /-- A registration reports what is due, and changes nothing if it fails. -/
  reports : ∀ registration failure, (router.perform registration).1 = failure ↔
    Verdict made registration.names failure
  unchanged : ∀ registration failure, (router.perform registration).1 = some failure →
    (router.perform registration).2 = router

theorem Holds.route?_eq_some (holds : Holds made router) {name : String} {position : Nat}
    (found : router.position? name = some position) :
    ∃ bounded : position < router.values.length,
      router.route? name = some router.values[position] := by
  obtain ⟨registration, there, _⟩ := (holds.positions name position).1 found
  have bounded : position < router.values.length := by
    rw [holds.length]
    exact (List.getElem?_eq_some_iff.1 there).1
  refine ⟨bounded, ?_⟩
  rw [route?, found, Option.bind_some, List.getElem?_eq_getElem bounded]

theorem Holds.registered (holds : Holds made router) : Registered made router where
  routes name value := by
    constructor
    · intro routed
      obtain ⟨position, found, there⟩ := Option.bind_eq_some_iff.1 routed
      obtain ⟨registration, made, listed⟩ := (holds.positions name position).1 found
      rw [holds.values, List.getElem?_map, made] at there
      exact ⟨registration, List.mem_of_getElem? made, listed, Option.some.inj there⟩
    · rintro ⟨registration, member, listed, rfl⟩
      obtain ⟨position, there⟩ := List.mem_iff_getElem?.1 member
      rw [route?, (holds.positions name position).2 ⟨registration, there, listed⟩,
        Option.bind_some, holds.values, List.getElem?_map, there]
      rfl
  apart := by
    rw [List.pairwise_iff_getElem]
    intro first second firstBound secondBound before name listed again
    have one := (holds.positions name first).2
      ⟨made[first], List.getElem?_eq_getElem firstBound, listed⟩
    have other := (holds.positions name second).2
      ⟨made[second], List.getElem?_eq_getElem secondBound, again⟩
    have same := Option.some.inj (one.symm.trans other)
    omega
  values := holds.values
  within name position stored := holds.route?_eq_some (Table.find?_eq_some.2 stored)
  reports := holds.verdict_iff
  unchanged registration failure failed := by
    unfold perform at failed ⊢
    split at failed
    · cases failed
    · rfl

/-- After any registrations, a router holds what the successful ones put there. -/
theorem run_registered (registrations : List (Registration α)) :
    Registered ((empty : Router α).successes registrations) (empty.run registrations) :=
  (holds_empty.run registrations).registered

end RhythmBot.Router
