import RhythmBot.Router
/-!
What registering values under aliases keeps: every alias leads to the value that it was registered
with, also after later registrations, and nothing else leads anywhere.
-/

namespace RhythmBot.Router

variable {α : Type} {router after : Router α} {names : List String} {value : α}

theorem conflict?_cons_of_bound {bound : String → Bool} {first : String} {rest : List String}
    (taken : bound first = true) : conflict? bound (first :: rest) = some first := by
  rw [conflict?, if_pos taken]

theorem conflict?_cons_of_free {bound : String → Bool} {first : String} {rest : List String}
    (free : bound first = false) :
    conflict? bound (first :: rest) =
      conflict? (fun other => other == first || bound other) rest := by
  rw [conflict?, if_neg (Bool.eq_false_iff.1 free)]

/-- There is no conflict among aliases that are given once each and not bound. -/
theorem conflict?_eq_none {bound : String → Bool} :
    conflict? bound names = none ↔ names.Nodup ∧ ∀ name ∈ names, bound name = false := by
  induction names generalizing bound with
  | nil => simp [conflict?]
  | cons first rest ih =>
    cases taken : bound first with
    | true => simp [conflict?_cons_of_bound taken, taken]
    | false =>
      rw [conflict?_cons_of_free taken, ih, List.nodup_cons]
      simp only [Bool.or_eq_false_iff, beq_eq_false_iff_ne, List.forall_mem_cons, taken, true_and]
      constructor
      · rintro ⟨once, free⟩
        exact ⟨⟨fun again => (free first again).1 rfl, once⟩,
          fun name listed => (free name listed).2⟩
      · rintro ⟨⟨apart, once⟩, free⟩
        exact ⟨once, fun name listed => ⟨fun same => apart (same ▸ listed), free name listed⟩⟩

/-- A registration takes aliases that lead nowhere yet, and puts the value behind the others. -/
theorem register_eq_ok (registered : router.register names value = .ok after) :
    (∀ name ∈ names, router.position? name = none) ∧
      after.positions = bind router.positions router.values.length names ∧
      after.values = router.values ++ [value] := by
  unfold register at registered
  split at registered
  · cases registered
  · split at registered
    · cases registered
    · rename_i free
      cases registered
      refine ⟨fun name listed => ?_, rfl, rfl⟩
      have unbound := (conflict?_eq_none.1 free).2 name listed
      simpa using unbound

def Leads (aliases : α → List String) (router : Router α) : Prop :=
  ∀ position value, router.values[position]? = some value →
    ∀ name ∈ aliases value, router.position? name = some position

theorem leads_empty (aliases : α → List String) : Leads aliases empty := by
  intro position value found
  cases found

theorem Leads.register {aliases : α → List String} (leads : Leads aliases router)
    (registered : router.register (aliases value) value = .ok after) : Leads aliases after := by
  obtain ⟨fresh, positions, values⟩ := register_eq_ok registered
  intro position found there name listed
  unfold position?
  rw [positions, find?_bind]
  rw [values, List.getElem?_append] at there
  split at there
  · have old := leads position found there name listed
    split
    · rename_i taken
      rw [fresh name taken] at old
      cases old
    · exact old
  -- Behind the old values there is just the new one.
  · rename_i beyond
    have last : position - router.values.length = 0 ∧ value = found := by
      cases place : position - router.values.length with
      | zero =>
        rw [place] at there
        exact ⟨rfl, Option.some.inj there⟩
      | succ more =>
        rw [place] at there
        cases there
    obtain ⟨place, rfl⟩ := last
    rw [if_pos listed]
    congr 1
    omega

def Backed (aliases : α → List String) (router : Router α) : Prop :=
  ∀ name position, router.position? name = some position →
    ∃ value, router.values[position]? = some value ∧ name ∈ aliases value

theorem backed_empty (aliases : α → List String) : Backed aliases empty := by
  intro name position found
  cases found

theorem Backed.register {aliases : α → List String} (backed : Backed aliases router)
    (registered : router.register (aliases value) value = .ok after) : Backed aliases after := by
  obtain ⟨_, positions, values⟩ := register_eq_ok registered
  intro name position found
  unfold position? at found
  rw [positions, find?_bind] at found
  rw [values]
  split at found
  · rename_i listed
    cases found
    refine ⟨value, ?_, listed⟩
    rw [List.getElem?_append_right (Nat.le_refl _), Nat.sub_self]
    rfl
  · obtain ⟨old, there, listed⟩ := backed name position found
    refine ⟨old, ?_, listed⟩
    have inside : position < router.values.length := (List.getElem?_eq_some_iff.1 there).1
    rw [List.getElem?_append_left inside]
    exact there

end RhythmBot.Router
