/-!
The file of a store: a snapshot is written to a temporary file that then takes the place of the
real one, so the real file always holds a complete snapshot.
-/

namespace RhythmBot.Store

/-- How an attempt to save goes. A failing write may leave anything in the temporary file. -/
inductive Attempt where
  | succeeds
  | failsToWrite (left : Option String)
  | failsToRename
  deriving Repr, DecidableEq

structure File where
  content : Option String
  temporary : Option String
  deriving Repr, DecidableEq

namespace File

def absent : File := ⟨none, none⟩

instance : Inhabited File := ⟨absent⟩

def save (file : File) (attempt : Attempt) (snapshot : String) : Bool × File :=
  match attempt with
  | .succeeds => (true, ⟨some snapshot, none⟩)
  | .failsToWrite left => (false, ⟨file.content, left⟩)
  | .failsToRename => (false, ⟨file.content, some snapshot⟩)

def load {α : Type} (decode : String → Option α) (fallback : α) (file : File) : α :=
  (file.content.bind decode).getD fallback

end File

def saveTo (file : Option File) (attempt : Attempt) (snapshot : String) : Bool × Option File :=
  match file with
  | none => (true, none)
  | some file =>
    let (saved, file) := file.save attempt snapshot
    (saved, some file)

end RhythmBot.Store
