import RhythmBot.Player
/-!
Leaderboards: rows with a rank, and the ranking of a group of players from their records.
-/

namespace RhythmBot

structure Entry where
  playerId : String
  nickname : String
  rank : Nat
  performance : Float
  accuracy : Float

def Entry.ofRecord (record : Record) : Entry where
  playerId := record.playerId
  nickname := record.nickname
  rank := record.rank
  performance := record.performance
  accuracy := record.accuracy

namespace Leaderboard

def pageSize : Nat := 15

def isRanked (entry : Entry) : Bool :=
  0 < entry.rank && 0 < entry.performance

/-- The ranked rows by rank, those of one rank in the order given, cut to a page. -/
def rank (entries : List Entry) : List Entry :=
  ((entries.filter isRanked).mergeSort fun a b => a.rank ≤ b.rank).take pageSize

def distinctBy {α : Type} (key : α → String) : List α → List α
  | [] => []
  | item :: rest => item :: (distinctBy key rest).filter fun other => key other != key item

theorem mem_of_mem_distinctBy {α : Type} {key : α → String} {items : List α} {item : α}
    (kept : item ∈ distinctBy key items) : item ∈ items := by
  induction items with
  | nil => simp [distinctBy] at kept
  | cons first rest ih =>
    simp only [distinctBy, List.mem_cons, List.mem_filter] at kept
    exact List.mem_cons.2 (kept.imp_right fun later => ih later.1)

theorem distinct_distinctBy {α : Type} (key : α → String) (items : List α) :
    ((distinctBy key items).map key).Nodup := by
  induction items with
  | nil => simp [distinctBy]
  | cons first rest ih =>
    simp only [distinctBy, List.map_cons, List.nodup_cons, List.mem_map, List.mem_filter]
    constructor
    · rintro ⟨item, ⟨_, different⟩, same⟩
      simp [same] at different
    · exact ih.sublist (List.filter_sublist.map key)

variable {m : Type → Type} [Monad m]

def lookUp (lookup : String → Mode → m (Option Record)) (playerIds : List String) (mode : Mode) :
    m (List Record) := do
  let found ← (distinctBy id playerIds).mapM fun playerId => lookup playerId mode
  return found.filterMap id

/-- The leaderboard of players from their records, the first record of each player counting. -/
def aggregate (lookup : String → Mode → m (Option Record)) (playerIds : List String)
    (mode : Mode) : m (List Entry) := do
  let records ← lookUp lookup playerIds mode
  return rank ((distinctBy Record.playerId records).map Entry.ofRecord)

end Leaderboard

end RhythmBot
