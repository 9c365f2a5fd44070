import Mathlib.Data.List.Basic
import RhythmBot.Leaderboard
/-!
What a leaderboard shows. Sorting by rank keeps the order of rows that share one; the leaderboard of
a group has one row for each of its players with a ranked record, and a page of them is cut off. Main
statement: the rows that are aggregated for the members of a group make up such a board.
-/

namespace RhythmBot

theorem not_lt_of_isNaN (x : Float) {y : Float} (nan : y.isNaN = true) : ¬ x < y := by
  intro below
  have decided : x.lt y = true := below
  unfold Float.lt at decided
  have compared : (x.toModel.unpack.compare y.toModel.unpack == some .lt) = true :=
    of_decide_eq_true decided
  have unpacked : y.toModel.unpack.isNaN = true := nan
  generalize y.toModel.unpack = second at compared unpacked
  generalize x.toModel.unpack = first at compared
  cases second with
  | notANumber => cases first <;> cases compared
  | _ => cases unpacked

theorem isNaN_of_pos {x : Float} (positive : 0 < x) : x.isNaN = false := by
  cases nan : x.isNaN with
  | false => rfl
  | true => exact absurd positive (not_lt_of_isNaN 0 nan)

namespace Leaderboard

section Sorting

variable {α : Type} (rankOf : α → Nat)

theorem rank_le_trans (a b c : α) (first : decide (rankOf a ≤ rankOf b) = true)
    (second : decide (rankOf b ≤ rankOf c) = true) : decide (rankOf a ≤ rankOf c) = true := by
  rw [decide_eq_true_eq] at *
  omega

theorem rank_le_total (a b : α) :
    (decide (rankOf a ≤ rankOf b) || decide (rankOf b ≤ rankOf a)) = true := by
  rw [Bool.or_eq_true, decide_eq_true_eq, decide_eq_true_eq]
  omega

theorem pairwise_rank_mergeSort (items : List α) :
    (items.mergeSort fun a b => rankOf a ≤ rankOf b).Pairwise
      fun a b => rankOf a ≤ rankOf b := by
  have sorted := List.pairwise_mergeSort (rank_le_trans rankOf) (rank_le_total rankOf) items
  simpa only [decide_eq_true_eq] using sorted

/-- Sorting by rank leaves the items of one rank in their order. -/
theorem filter_rank_mergeSort (items : List α) (n : Nat) :
    (items.mergeSort fun a b => rankOf a ≤ rankOf b).filter (rankOf · == n) =
      items.filter (rankOf · == n) := by
  have level : (items.filter (rankOf · == n)).Pairwise
      fun a b => decide (rankOf a ≤ rankOf b) = true := by
    apply List.pairwise_of_forall_mem_list
    intro a first b second
    have firstRank : rankOf a = n := by simpa using (List.mem_filter.1 first).2
    have secondRank : rankOf b = n := by simpa using (List.mem_filter.1 second).2
    rw [decide_eq_true_eq]
    omega
  have within : (items.filter (rankOf · == n)).Sublist
      (items.mergeSort fun a b => rankOf a ≤ rankOf b) :=
    List.sublist_mergeSort (rank_le_trans rankOf) (rank_le_total rankOf) level List.filter_sublist
  have kept := within.filter (rankOf · == n)
  rw [List.filter_filter] at kept
  simp only [Bool.and_self] at kept
  have same := ((List.mergeSort_perm items fun a b => rankOf a ≤ rankOf b).filter
    (rankOf · == n)).length_eq
  exact (kept.eq_of_length same.symm).symm

/-- Items in some order are, once sorted by rank, in the order of their ranks and within a rank in
the order that they had. -/
theorem pairwise_mergeSort_of_pairwise {before : α → α → Prop} {items : List α}
    (ordered : items.Pairwise before) :
    (items.mergeSort fun a b => rankOf a ≤ rankOf b).Pairwise
      fun a b => rankOf a < rankOf b ∨ rankOf a = rankOf b ∧ before a b := by
  rw [List.pairwise_iff_forall_sublist]
  intro a b pair
  have sorted : rankOf a ≤ rankOf b :=
    List.pairwise_iff_forall_sublist.1 (pairwise_rank_mergeSort rankOf items) pair
  rcases Nat.lt_or_eq_of_le sorted with less | same
  · exact .inl less
  · right
    refine ⟨same, ?_⟩
    have level := pair.filter (rankOf · == rankOf b)
    rw [filter_rank_mergeSort] at level
    simp only [List.filter_cons, same, beq_self_eq_true, if_true, List.filter_nil] at level
    exact List.pairwise_iff_forall_sublist.1 ordered (level.trans List.filter_sublist)

end Sorting

section Distinct

variable {α : Type} {key : α → String} {items : List α}

theorem distinctBy_of_nodup (distinct : (items.map key).Nodup) : distinctBy key items = items := by
  induction items with
  | nil => rfl
  | cons first rest ih =>
    rw [List.map_cons, List.nodup_cons] at distinct
    rw [distinctBy, ih distinct.2]
    congr 1
    rw [List.filter_eq_self]
    intro other listed
    have different : key other ≠ key first := by
      intro same
      exact distinct.1 (same ▸ List.mem_map_of_mem listed)
    exact bne_iff_ne.2 different

theorem mem_distinctBy_id {ids : List String} {playerId : String} :
    playerId ∈ distinctBy id ids ↔ playerId ∈ ids := by
  refine ⟨mem_of_mem_distinctBy, fun listed => ?_⟩
  induction ids with
  | nil => cases listed
  | cons first rest ih =>
    rw [distinctBy, List.mem_cons, List.mem_filter]
    by_cases same : playerId = first
    · exact .inl same
    · right
      have later := (List.mem_cons.1 listed).resolve_left same
      exact ⟨ih later, bne_iff_ne.2 same⟩

end Distinct

def firstWith (playerOf : String → Option String) (members : List String) (playerId : String) :
    Nat :=
  members.findIdx fun member => playerOf member == some playerId

/-- The players of a group, each taken once, come in the order of their first members. -/
theorem pairwise_firstWith (playerOf : String → Option String) (members : List String) :
    (distinctBy id (members.filterMap playerOf)).Pairwise
      fun a b => firstWith playerOf members a < firstWith playerOf members b := by
  induction members with
  | nil => exact .nil
  | cons member rest ih =>
    have behind : ∀ playerId, playerOf member ≠ some playerId →
        firstWith playerOf (member :: rest) playerId = firstWith playerOf rest playerId + 1 := by
      intro playerId other
      have passed : (playerOf member == some playerId) = false := by simpa using other
      rw [firstWith, List.findIdx_cons, passed]
      rfl
    cases found : playerOf member with
    | none =>
      rw [List.filterMap_cons_none found]
      apply ih.imp
      intro a b before
      rw [behind a (by simp [found]), behind b (by simp [found])]
      omega
    | some playerId =>
      have front : firstWith playerOf (member :: rest) playerId = 0 := by
        rw [firstWith, List.findIdx_cons, found, beq_self_eq_true]
        rfl
      rw [List.filterMap_cons_some found, distinctBy, List.pairwise_cons]
      have others : ∀ other ∈ (distinctBy id (rest.filterMap playerOf)).filter
          (fun other => id other != id playerId), playerOf member ≠ some other := by
        intro other listed same
        rw [found, Option.some.injEq] at same
        have different := (List.mem_filter.1 listed).2
        simp [same] at different
      constructor
      · intro other listed
        rw [front, behind other (others other listed)]
        omega
      · have ordered := ih.sublist (List.filter_sublist (p := fun other => id other != id playerId))
        refine ordered.imp_of_mem ?_
        intro a b first second before
        rw [behind a (others a first), behind b (others b second)]
        omega

/-- A row for a player of a group with a ranked record. -/
def Ranks (playerOf : String → Option String) (recordOf : String → Option Record)
    (members : List String) (row : Entry) : Prop :=
  ∃ member ∈ members, ∃ playerId record,
    playerOf member = some playerId ∧ recordOf playerId = some record ∧ 0 < record.rank ∧
      0 < record.performance ∧ record.performance.isNaN = false ∧
      row = ⟨record.playerId, record.nickname, record.rank, record.performance, record.accuracy⟩

/-- The rows shown of a group: a page of all rows for its players with a ranked record, one for each
player, by rank and then in the order of the members. -/
structure Board (playerOf : String → Option String) (recordOf : String → Option Record)
    (members : List String) (shown all : List Entry) : Prop where
  page : shown = all.take 15
  complete : ∀ row, row ∈ all ↔ Ranks playerOf recordOf members row
  once : (all.map Entry.playerId).Nodup
  ordered : all.Pairwise fun a b => a.rank < b.rank ∨
    a.rank = b.rank ∧
      firstWith playerOf members a.playerId < firstWith playerOf members b.playerId

theorem Board.shown_eq_nil {playerOf : String → Option String}
    {recordOf : String → Option Record} {members : List String} {shown all : List Entry}
    (board : Board playerOf recordOf members shown all) :
    shown = [] ↔ ¬ ∃ row, Ranks playerOf recordOf members row := by
  have empty : shown = [] ↔ all = [] := by
    rw [board.page, List.take_eq_nil_iff]
    simp
  rw [empty, List.eq_nil_iff_forall_not_mem, not_exists]
  exact forall_congr' fun row => not_congr (board.complete row)

def Precedes (playerOf : String → Option String) (members : List String) (a b : Entry) : Prop :=
  a.rank < b.rank ∨
    a.rank = b.rank ∧
      firstWith playerOf members a.playerId < firstWith playerOf members b.playerId

/-- A row of a board is shown, unless a page of rows for other players comes before it. -/
theorem Board.shown_or_preceded {playerOf : String → Option String}
    {recordOf : String → Option Record} {members : List String} {shown all : List Entry}
    (board : Board playerOf recordOf members shown all) {row : Entry} (listed : row ∈ all) :
    row ∈ shown ∨
      shown.length = 15 ∧ (shown.map Entry.playerId).Nodup ∧
        ∀ other ∈ shown, other.playerId ≠ row.playerId ∧ Precedes playerOf members other row := by
  have once := board.once
  have ordered := board.ordered
  rw [← List.take_append_drop 15 all] at listed once ordered
  rw [List.map_append, List.nodup_append] at once
  rw [List.pairwise_append] at ordered
  rw [board.page]
  rcases List.mem_append.1 listed with front | behind
  · exact .inl front
  · right
    have long : 15 < all.length := by
      have rest := List.length_pos_of_mem behind
      rw [List.length_drop] at rest
      omega
    refine ⟨List.length_take_of_le (Nat.le_of_lt long), once.1, ?_⟩
    intro other front
    exact ⟨once.2.2 _ (List.mem_map_of_mem front) _ (List.mem_map_of_mem behind),
      ordered.2.2 other front row behind⟩

theorem lookUp_pure (recordOf : String → Mode → Option Record) (playerIds : List String)
    (mode : Mode) :
    Id.run (lookUp (m := Id) recordOf playerIds mode) =
      (distinctBy id playerIds).filterMap fun playerId => recordOf playerId mode := by
  unfold lookUp
  simp [List.filterMap_map]
  rfl

theorem isRanked_ofRecord {record : Record} :
    isRanked (Entry.ofRecord record) = true ↔
      0 < record.rank ∧ 0 < record.performance ∧ record.performance.isNaN = false := by
  have shape : isRanked (Entry.ofRecord record) =
      (decide (0 < record.rank) && decide (0 < record.performance)) := rfl
  rw [shape, Bool.and_eq_true, decide_eq_true_eq, decide_eq_true_eq]
  constructor
  · rintro ⟨ranked, positive⟩
    exact ⟨ranked, positive, isNaN_of_pos positive⟩
  · rintro ⟨ranked, positive, _⟩
    exact ⟨ranked, positive⟩

/-- The rows shown of an answer: a page of those with a rank and a positive performance, by rank, and
those of one rank in the order of the answer. -/
structure Page (answered shown all : List Entry) : Prop where
  page : shown = all.take 15
  ranked : all.Perm (answered.filter fun row => 0 < row.rank ∧ 0 < row.performance)
  sorted : all.Pairwise fun a b => a.rank ≤ b.rank
  stable : ∀ n, all.filter (fun row => row.rank == n) =
    (answered.filter fun row => 0 < row.rank ∧ 0 < row.performance).filter fun row => row.rank == n

theorem rank_page (answered : List Entry) : ∃ all, Page answered (rank answered) all := by
  have ranked : answered.filter isRanked =
      answered.filter fun row => 0 < row.rank ∧ 0 < row.performance := by
    apply List.filter_congr
    intro row _
    exact (Bool.decide_and _ _).symm
  refine ⟨(answered.filter isRanked).mergeSort fun a b => a.rank ≤ b.rank, rfl, ?_, ?_, ?_⟩
  · rw [ranked]
    exact List.mergeSort_perm _ _
  · exact pairwise_rank_mergeSort Entry.rank _
  · intro n
    rw [filter_rank_mergeSort Entry.rank, ranked]

section Members

variable {playerOf : String → Option String} {recordOf : String → Option Record}
  {members : List String}

def recordsOfMembers (playerOf : String → Option String) (recordOf : String → Option Record)
    (members : List String) : List Record :=
  (distinctBy id (members.filterMap playerOf)).filterMap recordOf

theorem mem_recordsOfMembers {record : Record} :
    record ∈ recordsOfMembers playerOf recordOf members ↔
      ∃ member ∈ members, ∃ playerId,
        playerOf member = some playerId ∧ recordOf playerId = some record := by
  unfold recordsOfMembers
  simp only [List.mem_filterMap, mem_distinctBy_id]
  constructor
  · rintro ⟨playerId, ⟨member, listed, linked⟩, found⟩
    exact ⟨member, listed, playerId, linked, found⟩
  · rintro ⟨member, listed, playerId, linked, found⟩
    exact ⟨playerId, ⟨member, listed, linked⟩, found⟩

variable (own : ∀ playerId record, recordOf playerId = some record → record.playerId = playerId)
include own

theorem pairwise_recordsOfMembers :
    (recordsOfMembers playerOf recordOf members).Pairwise fun a b =>
      firstWith playerOf members a.playerId < firstWith playerOf members b.playerId := by
  apply (pairwise_firstWith playerOf members).filterMap
  intro a b before first firstFound second secondFound
  rw [own a first firstFound, own b second secondFound]
  exact before

theorem nodup_recordsOfMembers :
    ((recordsOfMembers playerOf recordOf members).map Record.playerId).Nodup := by
  apply List.pairwise_map.2
  apply (pairwise_recordsOfMembers own).imp
  intro a b before same
  rw [same] at before
  exact Nat.lt_irrefl _ before

/-- The rows aggregated from records make up a board where each record is the player's own. -/
theorem aggregate_board {lookup : String → Mode → Option Record} {mode : Mode}
    (known : ∀ playerId ∈ members.filterMap playerOf, lookup playerId mode = recordOf playerId) :
    ∃ all, Board playerOf recordOf members
      (Id.run (aggregate (m := Id) lookup (members.filterMap playerOf) mode)) all := by
  let records := recordsOfMembers playerOf recordOf members
  let ranked := (records.map Entry.ofRecord).filter isRanked
  have gathered : Id.run (lookUp (m := Id) lookup (members.filterMap playerOf) mode) = records := by
    rw [lookUp_pure]
    apply List.filterMap_congr
    intro playerId listed
    exact known playerId (mem_of_mem_distinctBy listed)
  have sorted : (ranked.mergeSort fun a b => a.rank ≤ b.rank).Perm ranked :=
    List.mergeSort_perm _ _
  have single : (records.map Record.playerId).Nodup := nodup_recordsOfMembers own
  refine ⟨ranked.mergeSort fun a b => a.rank ≤ b.rank, ?_, ?_, ?_, ?_⟩
  · have distinct := distinctBy_of_nodup single
    unfold aggregate
    rw [Id.run_bind, gathered]
    show rank ((distinctBy Record.playerId records).map Entry.ofRecord) = _
    rw [distinct]
    rfl
  · intro row
    rw [sorted.mem_iff, List.mem_filter, List.mem_map]
    constructor
    · rintro ⟨⟨record, listed, rfl⟩, rankedRow⟩
      obtain ⟨member, member_listed, playerId, linked, found⟩ := mem_recordsOfMembers.1 listed
      obtain ⟨placed, positive, number⟩ := isRanked_ofRecord.1 rankedRow
      exact ⟨member, member_listed, playerId, record, linked, found, placed, positive, number, rfl⟩
    · rintro ⟨member, listed, playerId, record, linked, found, placed, positive, number, rfl⟩
      exact ⟨⟨record, mem_recordsOfMembers.2 ⟨member, listed, playerId, linked, found⟩, rfl⟩,
        isRanked_ofRecord.2 ⟨placed, positive, number⟩⟩
  · have distinct : (ranked.map Entry.playerId).Nodup := by
      apply List.Nodup.sublist _ single
      have rows := (List.filter_sublist (p := isRanked)
        (l := records.map Entry.ofRecord)).map Entry.playerId
      rw [List.map_map] at rows
      exact rows
    exact (sorted.map Entry.playerId).nodup_iff.2 distinct
  · apply pairwise_mergeSort_of_pairwise Entry.rank
    apply List.Pairwise.filter
    apply List.pairwise_map.2
    exact pairwise_recordsOfMembers own

end Members

end Leaderboard

end RhythmBot
