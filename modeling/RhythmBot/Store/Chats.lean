import RhythmBot.Json.Shape
import RhythmBot.Store.File
/-!
What the bot knows of chat rooms: who took part in each, in order of first appearance, and the
beatmap shown there last. Both reach the disk with the next snapshot.
-/

namespace RhythmBot.Store

open Json

structure ChatData where
  members : Table (List String)
  lastBeatmaps : Table String

namespace ChatData

def empty : ChatData := ⟨.empty, .empty⟩

instance : Inhabited ChatData := ⟨empty⟩

def membersOf (data : ChatData) (room : String) : List String :=
  (data.members.find? room).getD []

def lastBeatmap? (data : ChatData) (room : String) : Option String :=
  data.lastBeatmaps.find? room

/-- The data with a sender among the members of a room, at the end unless already there. -/
def addMember (data : ChatData) (room sender : String) : ChatData :=
  let members := data.membersOf room
  { data with
    members := data.members.insert room
      (if members.contains sender then members else members ++ [sender]) }

def setLastBeatmap (data : ChatData) (room beatmapId : String) : ChatData :=
  { data with lastBeatmaps := data.lastBeatmaps.insert room beatmapId }

def encode (data : ChatData) : Json :=
  record
    [("members", ofTable (ofList ofText) data.members),
      ("last_beatmaps", ofTable ofText data.lastBeatmaps)]

def decode? (json : Json) : Option ChatData := do
  let [members, lastBeatmaps] ← fields? ["members", "last_beatmaps"] json | none
  some
    { members := ← members.required? (table? (list? text?))
      lastBeatmaps := ← lastBeatmaps.required? (table? text?) }

def snapshot (data : ChatData) : String := data.encode.render

def ofSnapshot? (text : String) : Option ChatData := (read? text).bind decode?

theorem membersOf_addMember (data : ChatData) (room sender other : String) :
    (data.addMember room sender).membersOf other =
      if other = room then
        if (data.membersOf room).contains sender then data.membersOf room
        else data.membersOf room ++ [sender]
      else data.membersOf other := by
  by_cases same : other = room <;> simp [addMember, membersOf, same]

theorem lastBeatmap?_setLastBeatmap (data : ChatData) (room beatmapId other : String) :
    (data.setLastBeatmap room beatmapId).lastBeatmap? other =
      if other = room then some beatmapId else data.lastBeatmap? other := by
  simp [setLastBeatmap, lastBeatmap?]

end ChatData

structure Chats where
  data : ChatData
  file : Option File

namespace Chats

def inMemory : Chats := ⟨.empty, none⟩

instance : Inhabited Chats := ⟨inMemory⟩

def onFile (file : File) : Chats :=
  ⟨file.load ChatData.ofSnapshot? .empty, some file⟩

def membersOf (chats : Chats) (room : String) : List String :=
  chats.data.membersOf room

def lastBeatmap? (chats : Chats) (room : String) : Option String :=
  chats.data.lastBeatmap? room

def addMember (chats : Chats) (room sender : String) : Chats :=
  { chats with data := chats.data.addMember room sender }

def setLastBeatmap (chats : Chats) (room beatmapId : String) : Chats :=
  { chats with data := chats.data.setLastBeatmap room beatmapId }

def save (chats : Chats) (attempt : Attempt) : Chats :=
  { chats with file := (saveTo chats.file attempt chats.data.snapshot).2 }

end Chats

end RhythmBot.Store
