import RhythmBot.Answer.Basic
/-!
The commands about the sender's own account: linking it to a player, removing the link, and setting
its default mode. Each is acknowledged only once it is on disk.
-/

namespace RhythmBot.Answer

/-- The default mode of an account linked now: the mode typed, else the one the sender has. -/
def linkedMode (context : Context) : Option Mode :=
  context.arguments.mode <|> context.account.bind Account.mode

def isTaken (players : Store.Players) (sender remoteId : String) : Bool :=
  (players.owner? remoteId).any fun owner => owner.1 != sender

/-- Links the sender to the player typed, unless another sender has that player. -/
def set : Answer Reply := do
  let context ← read
  match Identity.explicit? context.server.capabilities context.arguments with
  | none => return context.usageReply .set
  | some (.error failure) => fail (.resolution failure)
  | some (.ok player) =>
    let record ← askUser (← playerQuery player .lookup)
    let sender := context.origin.sender
    if isTaken (← get).players sender record.playerId then
      return .ofText (context.text "set_taken" [("nickname", record.nickname)])
    let account : Account := ⟨record.playerId, record.nickname, linkedMode context⟩
    let _ ← changeAccount (·.setAccount context.disk sender account)
    keepRecord record
    return .ofText
      (context.text "set_done" [("nickname", record.nickname), ("id", record.playerId)])

def unset : Answer Reply := do
  let context ← read
  let removed ← changeAccount (·.removeAccount context.disk context.origin.sender)
  return .ofText (context.text (if removed then "unset_done" else "unset_missing") [])

def mode : Answer Reply := do
  let context ← read
  match context.arguments.mode, context.arguments.full with
  | some mode, [] =>
    if ← changeAccount (·.setMode context.disk context.origin.sender mode) then
      return .ofText (context.text "mode_done" [("mode", mode.name)])
    return .ofText (context.text "no_linked_account" [("set", context.setLine)])
  | _, _ => return .ofText (context.text "mode_invalid" [("modes", Mode.listing)])

end RhythmBot.Answer
