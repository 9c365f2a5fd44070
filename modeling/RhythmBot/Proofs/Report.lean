import RhythmBot.Proofs.Decimal.Fixed
import RhythmBot.Report
/-!
What a page of rows or of plays shows. Main statement: below the header it has one line for each of
them, in their order, and a line is the text of the catalog filled with its number, counted from one, and
the values of its row or play.
-/

namespace RhythmBot.Report

open Decimal

/-- A line for each item in order, by how the line of an item is written under a number. -/
def Lines {α : Type} (writes : Nat → α → String → Prop) (items : List α) (lines : List String) :
    Prop :=
  lines.length = items.length ∧
    ∀ place item, items[place]? = some item →
      ∃ line, lines[place]? = some line ∧ writes (place + 1) item line

def WritesEntry (catalog : Catalog) (number : Nat) (entry : Entry) (line : String) : Prop :=
  ∃ performance accuracy,
    InPlaces 0 (Binary.ofFloat entry.performance) performance ∧
    InPlaces 2 (Binary.ofFloat entry.accuracy) accuracy ∧
    line = catalog.text "leaderboard_line"
      [("index", toString number), ("nickname", entry.nickname), ("rank", toString entry.rank),
        ("performance", performance), ("accuracy", accuracy)]

inductive WritesPoints : Option Float → String → Prop
  | unknown : WritesPoints none "-"
  | known {performance : Float} {points : String} :
      InPlaces 0 (Binary.ofFloat performance) points →
      WritesPoints (some performance) (points ++ "pp")

def WritesScore (catalog : Catalog) (number : Nat) (score : Score) (line : String) : Prop :=
  ∃ performance accuracy,
    WritesPoints score.performance performance ∧
    InPlaces 2 (Binary.ofFloat score.accuracy) accuracy ∧
    line = catalog.text "score_line"
      [("index", toString number), ("title", score.title), ("mods", score.mods.text),
        ("accuracy", accuracy), ("grade", score.grade), ("combo", toString score.maxCombo),
        ("performance", performance)]

theorem writesEntry_entryLine (catalog : Catalog) (number : Nat) (entry : Entry) :
    WritesEntry catalog number entry (entryLine catalog number entry) :=
  ⟨_, _, inPlaces_fixed 0 entry.performance, inPlaces_fixed 2 entry.accuracy, rfl⟩

theorem writesPoints_scorePoints (performance : Option Float) :
    WritesPoints performance (scorePoints performance) := by
  cases performance with
  | none => exact .unknown
  | some performance => exact .known (inPlaces_fixed 0 performance)

theorem writesScore_scoreLine (catalog : Catalog) (number : Nat) (score : Score) :
    WritesScore catalog number score (scoreLine catalog number score) :=
  ⟨_, _, writesPoints_scorePoints score.performance, inPlaces_fixed 2 score.accuracy, rfl⟩

theorem lines_mapIdx {α : Type} {writes : Nat → α → String → Prop} {write : Nat → α → String}
    (written : ∀ number item, writes number item (write number item)) (items : List α) :
    Lines writes items (items.mapIdx fun index item => write (index + 1) item) := by
  refine ⟨List.length_mapIdx, ?_⟩
  intro place item there
  refine ⟨write (place + 1) item, ?_, written _ _⟩
  rw [List.getElem?_mapIdx, there]
  rfl

/-- A leaderboard shows its rows. -/
theorem leaderboard_lines (catalog : Catalog) (header : String) (entries : List Entry) :
    ∃ lines, leaderboard catalog header entries = header ++ "\n\n" ++ "\n".intercalate lines ∧
      Lines (WritesEntry catalog) entries lines :=
  ⟨_, rfl, lines_mapIdx (writesEntry_entryLine catalog) entries⟩

/-- So does a page of plays. -/
theorem scores_lines (catalog : Catalog) (header : String) (plays : List Score) :
    ∃ lines, scores catalog header plays = header ++ "\n\n" ++ "\n".intercalate lines ∧
      Lines (WritesScore catalog) plays lines :=
  ⟨_, rfl, lines_mapIdx (writesScore_scoreLine catalog) plays⟩

end RhythmBot.Report
