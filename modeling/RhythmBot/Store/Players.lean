import RhythmBot.Json.Shape
import RhythmBot.Player
import RhythmBot.Store.File
/-!
The players that a server knows: accounts of chat senders, which are on disk before a change to them
counts, and the records last fetched, which reach the disk with the next snapshot.
-/

namespace RhythmBot.Store

open Json

structure PlayerData where
  accounts : Table Account
  records : Table Record

namespace PlayerData

def empty : PlayerData := ⟨.empty, .empty⟩

instance : Inhabited PlayerData := ⟨empty⟩

def recordKey (playerId : String) (mode : Mode) : String :=
  playerId ++ ":" ++ toString mode.index

def link (data : PlayerData) (sender : String) (account : Account) : PlayerData :=
  { data with accounts := data.accounts.insert sender account }

def withMode? (data : PlayerData) (sender : String) (mode : Mode) : Option PlayerData :=
  (data.accounts.find? sender).map fun account =>
    data.link sender { account with mode := some mode }

def unlink? (data : PlayerData) (sender : String) : Option PlayerData :=
  (data.accounts.find? sender).map fun _ =>
    { data with accounts := data.accounts.erase sender }

def file (data : PlayerData) (record : Record) : PlayerData :=
  { data with records := data.records.insert (recordKey record.playerId record.mode) record }

def modeName : Mode → String
  | .standard => "Standard"
  | .taiko => "Taiko"
  | .fruits => "Fruits"
  | .mania => "Mania"

def encodeMode (mode : Mode) : Json := ofText (modeName mode)

def modeOfName? (name : String) : Option Mode :=
  Mode.all.find? fun mode => modeName mode == name

/-- The mode of a document: its name, or an object with the name as its only key and no value. -/
def decodeMode? : Json → Option Mode
  | .string (some name) => modeOfName? name
  | .object [(some name, .null)] => modeOfName? name
  | _ => none

def encodeAccount (account : Account) : Json :=
  record
    [("remote_id", ofText account.remoteId), ("nickname", ofText account.nickname),
      ("mode", ofOption encodeMode account.mode)]

def decodeAccount? (json : Json) : Option Account := do
  let [remoteId, nickname, mode] ← fields? ["remote_id", "nickname", "mode"] json | none
  some
    { remoteId := ← remoteId.required? text?
      nickname := ← nickname.required? text?
      mode := ← mode.optional? decodeMode? }

def encodeRecord (entry : Record) : Json :=
  record
    [("player_id", ofText entry.playerId), ("nickname", ofText entry.nickname),
      ("mode", encodeMode entry.mode), ("rank", ofNat entry.rank),
      ("performance", ofFloat entry.performance), ("accuracy", ofFloat entry.accuracy),
      ("play_count", ofNat entry.playCount), ("country", ofOption ofText entry.country)]

def decodeRecord? (json : Json) : Option Record := do
  let [playerId, nickname, mode, rank, performance, accuracy, playCount, country] ←
    fields? ["player_id", "nickname", "mode", "rank", "performance", "accuracy", "play_count",
      "country"] json | none
  some
    { playerId := ← playerId.required? text?
      nickname := ← nickname.required? text?
      mode := ← mode.required? decodeMode?
      rank := ← rank.required? (natural? largestWord)
      performance := ← performance.required? float?
      accuracy := ← accuracy.required? float?
      playCount := ← playCount.required? (natural? largestWord)
      country := ← country.optional? text? }

def encode (data : PlayerData) : Json :=
  record
    [("accounts", ofTable encodeAccount data.accounts),
      ("records", ofTable encodeRecord data.records)]

def decode? (json : Json) : Option PlayerData := do
  let [accounts, records] ← fields? ["accounts", "records"] json | none
  some
    { accounts := ← accounts.required? (table? decodeAccount?)
      records := ← records.required? (table? decodeRecord?) }

def snapshot (data : PlayerData) : String := data.encode.render

def ofSnapshot? (text : String) : Option PlayerData := (read? text).bind decode?

end PlayerData

/-- What came of a change to the accounts: it is on disk, there was nothing to change, or it could
not be saved. -/
inductive Change where
  | saved
  | nothing
  | failed
  deriving Repr, DecidableEq

structure Players where
  data : PlayerData
  file : Option File

namespace Players

def inMemory : Players := ⟨.empty, none⟩

instance : Inhabited Players := ⟨inMemory⟩

def onFile (file : File) : Players :=
  ⟨file.load PlayerData.ofSnapshot? .empty, some file⟩

def account? (players : Players) (sender : String) : Option Account :=
  players.data.accounts.find? sender

def record? (players : Players) (playerId : String) (mode : Mode) : Option Record :=
  players.data.records.find? (PlayerData.recordKey playerId mode)

def owner? (players : Players) (remoteId : String) : Option (String × Account) :=
  players.data.accounts.search? fun account => account.remoteId == remoteId

/-- Saves changed data and, only if that succeeds, makes it the content of the store. -/
def commit (players : Players) (attempt : Attempt) : Option PlayerData → Change × Players
  | none => (.nothing, players)
  | some data =>
    match saveTo players.file attempt data.snapshot with
    | (true, file) => (.saved, ⟨data, file⟩)
    | (false, file) => (.failed, ⟨players.data, file⟩)

def setAccount (players : Players) (attempt : Attempt) (sender : String) (account : Account) :
    Change × Players :=
  players.commit attempt (some (players.data.link sender account))

def setMode (players : Players) (attempt : Attempt) (sender : String) (mode : Mode) :
    Change × Players :=
  players.commit attempt (players.data.withMode? sender mode)

def removeAccount (players : Players) (attempt : Attempt) (sender : String) : Change × Players :=
  players.commit attempt (players.data.unlink? sender)

def putRecord (players : Players) (record : Record) : Players :=
  { players with data := players.data.file record }

def save (players : Players) (attempt : Attempt) : Players :=
  { players with file := (saveTo players.file attempt players.data.snapshot).2 }

end Players

end RhythmBot.Store
