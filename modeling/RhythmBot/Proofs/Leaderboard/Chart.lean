import RhythmBot.Proofs.Leaderboard
/-!
The ranking of a group as a whole: what is looked up, which records count and which rows are shown.
Main statement: aggregating asks for each distinct id once, in the order of the ids, and shows exactly
the one list of rows that these rules leave.
-/

namespace RhythmBot.Leaderboard

/-- The items of a list each once, in the order in which they first occur. -/
structure Firsts (items once : List String) : Prop where
  distinct : once.Nodup
  same : ∀ item, item ∈ once ↔ item ∈ items
  ordered : once.Pairwise fun a b => items.idxOf a < items.idxOf b

theorem firsts_distinctBy (items : List String) : Firsts items (distinctBy id items) := by
  refine ⟨?_, fun item => mem_distinctBy_id, ?_⟩
  · have distinct := distinct_distinctBy id items
    rwa [List.map_id] at distinct
  · have ordered := pairwise_firstWith some items
    rw [List.filterMap_some] at ordered
    apply ordered.imp
    intro a b before
    have place : ∀ item, firstWith some items item = items.idxOf item := fun item => by
      unfold firstWith List.idxOf
      rfl
    rw [place, place] at before
    exact before

theorem Firsts.eq {items once : List String} (firsts : Firsts items once) :
    once = distinctBy id items := by
  have others := firsts_distinctBy items
  apply List.Perm.eq_of_pairwise _ firsts.ordered others.ordered
  · rw [List.perm_ext_iff_of_nodup firsts.distinct others.distinct]
    intro item
    rw [firsts.same, others.same]
  · intro a b _ _ before after
    exact absurd before (Nat.lt_asymm after)

def firstRecord? (found : List Record) (playerId : String) : Option Record :=
  found.find? fun record => record.playerId == playerId

theorem firstRecord?_cons (first : Record) (rest : List Record) (playerId : String) :
    firstRecord? (first :: rest) playerId =
      if first.playerId = playerId then some first else firstRecord? rest playerId := by
  unfold firstRecord?
  by_cases same : first.playerId = playerId
  · rw [List.find?_cons_of_pos (by rw [beq_iff_eq]; exact same), if_pos same]
  · rw [List.find?_cons_of_neg (by rw [beq_iff_eq]; exact same), if_neg same]

theorem playerId_of_firstRecord? {found : List Record} {playerId : String} {record : Record}
    (first : firstRecord? found playerId = some record) : record.playerId = playerId := by
  unfold firstRecord? at first
  simpa using List.find?_some first

/-- Without those whose player came before, the records are the first ones of their players. -/
theorem distinctBy_eq_filterMap (found : List Record) :
    distinctBy Record.playerId found =
      (distinctBy id (found.map Record.playerId)).filterMap (firstRecord? found) := by
  induction found with
  | nil => rfl
  | cons first rest ih =>
    have front : firstRecord? (first :: rest) first.playerId = some first := by
      rw [firstRecord?_cons, if_pos rfl]
    rw [distinctBy, List.map_cons, distinctBy, List.filterMap_cons_some front, ih,
      List.filter_filterMap, List.filterMap_filter]
    congr 1
    apply List.filterMap_congr
    intro playerId _
    rw [firstRecord?_cons]
    by_cases same : first.playerId = playerId
    · cases later : firstRecord? rest playerId with
      | none => simp [same]
      | some record => simp [same, playerId_of_firstRecord? later]
    · rw [if_neg same]
      cases later : firstRecord? rest playerId with
      | none => simp
      | some record => simp [playerId_of_firstRecord? later, Ne.symm same]

def rankedRows (found : List Record) (players : List String) : List Entry :=
  ((players.filterMap (firstRecord? found)).filter fun record =>
    0 < record.rank ∧ 0 < record.performance ∧ record.performance.isNaN = false).map Entry.ofRecord

theorem filter_isRanked (records : List Record) :
    (records.map Entry.ofRecord).filter isRanked =
      (records.filter fun record =>
        0 < record.rank ∧ 0 < record.performance ∧ record.performance.isNaN = false).map
          Entry.ofRecord := by
  rw [List.filter_map]
  congr 1
  apply List.filter_congr
  intro record _
  rw [Bool.eq_iff_iff, decide_eq_true_iff]
  exact isRanked_ofRecord

def Before (rows : List Entry) (a b : Entry) : Prop :=
  a.rank < b.rank ∨ a.rank = b.rank ∧ [a, b].Sublist rows

/-- A page of rows: as many as there can be, in order, and none that is left out comes before one that
is shown. -/
structure Shown (rows shown : List Entry) : Prop where
  listed : ∀ row ∈ shown, row ∈ rows
  ordered : shown.Pairwise (Before rows)
  once : (shown.map Entry.playerId).Nodup
  full : shown.length = min 15 rows.length
  cut : ∀ row ∈ rows, row ∉ shown → ∀ other ∈ shown, Before rows other row

section Pages

variable {α : Type}

theorem not_sublist_swap {items : List α} (distinct : items.Nodup) {a b : α}
    (first : [a, b].Sublist items) : ¬ [b, a].Sublist items := by
  induction items with
  | nil => cases first
  | cons item rest ih =>
    rw [List.nodup_cons] at distinct
    intro second
    cases first with
    | cons _ first =>
      cases second with
      | cons _ second => exact ih distinct.2 first second
      | cons_cons _ second => exact distinct.1 (first.subset (by simp))
    | cons_cons _ first =>
      have behind : b ∈ rest := List.singleton_sublist.1 first
      cases second with
      | cons _ second => exact distinct.1 (second.subset (by simp))
      | cons_cons _ second => exact distinct.1 behind

/-- Items in order with all others behind them are the first ones of all items in order. -/
theorem eq_take_of_ordered {before : α → α → Prop} {all shown : List α} {size : Nat}
    (apart : ∀ a b, before a b → ¬ before b a) (sorted : all.Pairwise before)
    (listed : ∀ item ∈ shown, item ∈ all) (ordered : shown.Pairwise before)
    (full : shown.length = min size all.length)
    (cut : ∀ item ∈ all, item ∉ shown → ∀ other ∈ shown, before other item) :
    shown = all.take size := by
  classical
  have distinct : ∀ items : List α, items.Pairwise before → items.Nodup := by
    intro items inOrder
    apply inOrder.imp
    rintro a _ once rfl
    exact apart a a once once
  let rest := all.filter (· ∉ shown)
  have joined : (shown ++ rest).Pairwise before := by
    rw [List.pairwise_append]
    refine ⟨ordered, sorted.filter _, ?_⟩
    intro other front item behind
    obtain ⟨there, left⟩ := List.mem_filter.1 behind
    exact cut item there (of_decide_eq_true left) other front
  have same : shown ++ rest = all := by
    apply List.Perm.eq_of_pairwise _ joined sorted
    · rw [List.perm_ext_iff_of_nodup (distinct _ joined) (distinct _ sorted)]
      intro item
      by_cases front : item ∈ shown
      · simp [front, listed item front]
      · simp [rest, front]
    · intro a b _ _ once again
      exact absurd again (apart a b once)
  have lengths := congrArg List.length same
  rw [List.length_append] at lengths
  rw [← same, List.take_append, List.take_of_length_le (by omega)]
  by_cases short : size ≤ shown.length
  · rw [Nat.sub_eq_zero_of_le short, List.take_zero, List.append_nil]
  · have nothing : rest = [] := List.length_eq_zero_iff.1 (by omega)
    rw [nothing, List.take_nil, List.append_nil]

end Pages

variable {rows shown : List Entry}

theorem Before.asymm (distinct : rows.Nodup) {a b : Entry} (first : Before rows a b) :
    ¬ Before rows b a := by
  rintro (less | ⟨same, second⟩)
  · rcases first with greater | ⟨same, _⟩ <;> omega
  · rcases first with greater | ⟨_, first⟩
    · omega
    · exact not_sublist_swap distinct first second

theorem nodup_of_once (once : (rows.map Entry.playerId).Nodup) : rows.Nodup := by
  apply List.Pairwise.of_map Entry.playerId _ once
  intro a b different same
  exact different (congrArg Entry.playerId same)

theorem shown_iff (once : (rows.map Entry.playerId).Nodup) :
    Shown rows shown ↔ shown = (rows.mergeSort fun a b => a.rank ≤ b.rank).take 15 := by
  have sorted : (rows.mergeSort fun a b => a.rank ≤ b.rank).Perm rows :=
    List.mergeSort_perm _ _
  have pairs : rows.Pairwise fun a b => [a, b].Sublist rows :=
    List.pairwise_iff_forall_sublist.2 fun pair => pair
  have ordered : (rows.mergeSort fun a b => a.rank ≤ b.rank).Pairwise (Before rows) :=
    pairwise_mergeSort_of_pairwise Entry.rank pairs
  constructor
  · intro page
    apply eq_take_of_ordered (fun a b => Before.asymm (nodup_of_once once)) ordered
    · intro row front
      exact sorted.mem_iff.2 (page.listed row front)
    · exact page.ordered
    · rw [page.full, sorted.length_eq]
    · intro row there left
      exact page.cut row (sorted.mem_iff.1 there) left
  · rintro rfl
    have parts := List.take_append_drop 15 (rows.mergeSort fun a b => a.rank ≤ b.rank)
    refine ⟨?_, ordered.sublist (List.take_sublist _ _), ?_, ?_, ?_⟩
    · intro row front
      exact sorted.mem_iff.1 (List.mem_of_mem_take front)
    · have distinct := (sorted.map Entry.playerId).nodup_iff.2 once
      exact distinct.sublist ((List.take_sublist _ _).map _)
    · rw [List.length_take, sorted.length_eq]
    · intro row there left other front
      have behind : row ∈ (rows.mergeSort fun a b => a.rank ≤ b.rank).drop 15 := by
        have listed := sorted.mem_iff.2 there
        rw [← parts, List.mem_append] at listed
        exact listed.resolve_left left
      rw [← parts, List.pairwise_append] at ordered
      exact ordered.2.2 other front row behind

def noting (recordOf : String → Mode → Option Record) (playerId : String) (mode : Mode) :
    StateM (List (String × Mode)) (Option Record) := do
  modify (· ++ [(playerId, mode)])
  return recordOf playerId mode

theorem run_mapM_noting (recordOf : String → Mode → Option Record) (playerIds : List String)
    (mode : Mode) (asked : List (String × Mode)) :
    (playerIds.mapM fun playerId => noting recordOf playerId mode).run asked =
      (playerIds.map (recordOf · mode), asked ++ playerIds.map (·, mode)) := by
  induction playerIds generalizing asked with
  | nil => simp; rfl
  | cons playerId later ih =>
    have rest := ih (asked ++ [(playerId, mode)])
    rw [List.append_assoc, List.singleton_append] at rest
    have asks : (noting recordOf playerId mode).run asked =
        (recordOf playerId mode, asked ++ [(playerId, mode)]) := rfl
    rw [List.mapM_cons, StateT.run_bind, asks]
    change (StateT.run (later.mapM _ >>= _) (asked ++ [(playerId, mode)]) : Id _) = _
    rw [StateT.run_bind, rest]
    rfl

/-- The answer to a group by what was looked up for it: each distinct id once, in the order of the ids;
of the records found, the first one of each player; of these, a page of the ranked ones. -/
inductive Charted (recordOf : String → Mode → Option Record) (playerIds : List String) (mode : Mode) :
    List (String × Mode) → List Entry → Prop
  | of {once players : List String} {shown : List Entry} :
      Firsts playerIds once →
      Firsts ((once.filterMap (recordOf · mode)).map Record.playerId) players →
      Shown (rankedRows (once.filterMap (recordOf · mode)) players) shown →
      Charted recordOf playerIds mode (once.map (·, mode)) shown

theorem once_rankedRows (found : List Record) {players : List String} (distinct : players.Nodup) :
    ((rankedRows found players).map Entry.playerId).Nodup := by
  have firsts : (players.filterMap (firstRecord? found)).Pairwise
      fun a b => a.playerId ≠ b.playerId := by
    apply List.Pairwise.filterMap _ _ distinct
    intro a b different first firstFound second secondFound
    rw [playerId_of_firstRecord? firstFound, playerId_of_firstRecord? secondFound]
    exact different
  rw [rankedRows, List.map_map, List.Nodup, List.pairwise_map]
  exact firsts.filter _

theorem aggregate_pure (recordOf : String → Mode → Option Record) (playerIds : List String)
    (mode : Mode) :
    let found := (distinctBy id playerIds).filterMap (recordOf · mode)
    Id.run (aggregate (m := Id) recordOf playerIds mode) =
      ((rankedRows found (distinctBy id (found.map Record.playerId))).mergeSort
        fun a b => a.rank ≤ b.rank).take 15 := by
  intro found
  unfold aggregate
  rw [Id.run_bind, lookUp_pure]
  change rank ((distinctBy Record.playerId found).map Entry.ofRecord) = _
  rw [rank, filter_isRanked, distinctBy_eq_filterMap]
  rfl

theorem aggregate_noting (recordOf : String → Mode → Option Record) (playerIds : List String)
    (mode : Mode) (asked : List (String × Mode)) :
    (aggregate (noting recordOf) playerIds mode).run asked =
      (Id.run (aggregate (m := Id) recordOf playerIds mode),
        asked ++ (distinctBy id playerIds).map (·, mode)) := by
  have noted := run_mapM_noting recordOf (distinctBy id playerIds) mode asked
  have looked : (lookUp (noting recordOf) playerIds mode).run asked =
      (Id.run (lookUp (m := Id) recordOf playerIds mode),
        asked ++ (distinctBy id playerIds).map (·, mode)) := by
    rw [lookUp_pure]
    unfold lookUp
    rw [StateT.run_bind, noted]
    change (List.filterMap id (List.map _ _), _) = _
    rw [List.filterMap_map]
    rfl
  unfold aggregate
  rw [StateT.run_bind, looked]
  rfl

/-- The rows shown for a group of ids and the look-ups made for them are exactly those that answer it.
-/
theorem aggregate_iff_charted (recordOf : String → Mode → Option Record) (playerIds : List String)
    (mode : Mode) (asked : List (String × Mode)) (shown : List Entry) :
    (aggregate (noting recordOf) playerIds mode).run [] = (shown, asked) ∧
        Id.run (aggregate (m := Id) recordOf playerIds mode) = shown ↔
      Charted recordOf playerIds mode asked shown := by
  have answer := aggregate_pure recordOf playerIds mode
  have players := firsts_distinctBy
    (((distinctBy id playerIds).filterMap (recordOf · mode)).map Record.playerId)
  rw [aggregate_noting, List.nil_append, Prod.mk.injEq]
  constructor
  · rintro ⟨⟨_, rfl⟩, rfl⟩
    exact .of (firsts_distinctBy playerIds) players
      ((shown_iff (once_rankedRows _ players.distinct)).2 answer)
  · rintro ⟨ids, found, page⟩
    cases ids.eq
    cases found.eq
    have same := (shown_iff (once_rankedRows _ players.distinct)).1 page
    rw [answer, same]
    exact ⟨⟨rfl, rfl⟩, rfl⟩

end RhythmBot.Leaderboard
