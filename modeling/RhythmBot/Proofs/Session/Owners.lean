import RhythmBot.Proofs.Session.Turn
import RhythmBot.Proofs.Table
/-!
Each player of a server is linked to one sender at most. The store does not see to this: the command
that links an account looks for another owner first. Main statement: every run keeps it, so the
search for an owner has one possible answer.
-/

namespace RhythmBot

/-- No two senders have accounts for the same player. -/
def Separate (accounts : Table Account) : Prop :=
  ∀ sender other account otherAccount,
    accounts.find? sender = some account → accounts.find? other = some otherAccount →
      account.remoteId = otherAccount.remoteId → sender = other

theorem Separate.erase {accounts : Table Account} (separate : Separate accounts)
    (sender : String) : Separate (accounts.erase sender) := by
  intro first second firstAccount secondAccount firstFound secondFound same
  simp only [Table.find?_erase] at firstFound secondFound
  split at firstFound
  · cases firstFound
  · split at secondFound
    · cases secondFound
    · exact separate first second firstAccount secondAccount firstFound secondFound same

/-- An account may be filed under a sender if nobody else has one for its player. -/
theorem Separate.insert {accounts : Table Account} (separate : Separate accounts)
    {sender : String} {account : Account}
    (free : ∀ other otherAccount, accounts.find? other = some otherAccount →
      otherAccount.remoteId = account.remoteId → other = sender) :
    Separate (accounts.insert sender account) := by
  intro first second firstAccount secondAccount firstFound secondFound same
  simp only [Table.find?_insert] at firstFound secondFound
  split at firstFound
  · rename_i firstSender
    cases firstFound
    split at secondFound
    · rename_i secondSender
      rw [firstSender, secondSender]
    · rw [firstSender, free second secondAccount secondFound same.symm]
  · split at secondFound
    · rename_i secondSender
      cases secondFound
      rw [secondSender, free first firstAccount firstFound same]
    · exact separate first second firstAccount secondAccount firstFound secondFound same

/-- Where players have one owner each, a player that is not taken is free for the sender: the owner
found is the only one. -/
theorem Separate.free_of_not_taken {players : Store.Players} {sender remoteId : String}
    (separate : Separate players.data.accounts)
    (untaken : Answer.isTaken players sender remoteId = false) (other : String)
    (otherAccount : Account) (found : players.data.accounts.find? other = some otherAccount)
    (same : otherAccount.remoteId = remoteId) : other = sender := by
  unfold Answer.isTaken Store.Players.owner? at untaken
  cases owner : players.data.accounts.search? fun account => account.remoteId == remoteId with
  | none =>
    have different := Table.holds_false_of_search?_eq_none owner found
    simp [same] at different
  | some entry =>
    obtain ⟨holder, account⟩ := entry
    rw [owner] at untaken
    have held := Table.find?_of_search? owner
    have holderIsSender : holder = sender := by simpa using untaken
    have sameId : account.remoteId = remoteId := by simpa using held.2
    rw [separate other holder otherAccount account found held.1 (same.trans sameId.symm),
      holderIsSender]

inductive Relinked (sender : String) (before : Store.Players) : Table Account → Prop
  | kept : Relinked sender before before.data.accounts
  | linked (account : Account) :
      Answer.isTaken before sender account.remoteId = false →
      Relinked sender before (before.data.accounts.insert sender account)
  | remoded (account : Account) (mode : Mode) :
      before.data.accounts.find? sender = some account →
      Relinked sender before (before.data.accounts.insert sender { account with mode := some mode })
  | unlinked : Relinked sender before (before.data.accounts.erase sender)

theorem Relinked.separate {sender : String} {before : Store.Players} {accounts : Table Account}
    (relinked : Relinked sender before accounts) (separate : Separate before.data.accounts) :
    Separate accounts := by
  cases relinked with
  | kept => exact separate
  | linked account free => exact separate.insert (separate.free_of_not_taken free)
  | remoded account mode found =>
    apply separate.insert
    intro other otherAccount otherFound same
    exact separate other sender otherAccount account otherFound found same
  | unlinked => exact separate.erase sender

namespace Answer

variable {context : Context} {before after : Books} {command : Command} {outcome : Outcome Reply}

theorem Ending.relinked (ending : Ending context before command outcome after) :
    Relinked context.origin.sender before.players after.players.data.accounts := by
  cases ending with
  | setDone _ asked _ free changed =>
    obtain ⟨data, linked, rfl⟩ := Store.Players.commit_saved changed
    cases linked
    rw [asked.players_eq] at free ⊢
    exact .linked _ free
  | setUnsaved _ asked _ _ changed =>
    simp only [Books.withPlayers_players, (Store.Players.commit_failed changed).1,
      asked.players_eq]
    exact .kept
  | unsetDone changed =>
    obtain ⟨data, removed, rfl⟩ := Store.Players.commit_saved changed
    obtain ⟨account, _, rfl⟩ := Option.map_eq_some_iff.1 removed
    exact .unlinked
  | unsetUnsaved changed =>
    simp only [Books.withPlayers_players, (Store.Players.commit_failed changed).1]
    exact .kept
  | unsetMissing changed =>
    simp only [Books.withPlayers_players, (Store.Players.commit_nothing changed).2]
    exact .kept
  | modeDone _ _ changed =>
    obtain ⟨data, remoded, rfl⟩ := Store.Players.commit_saved changed
    obtain ⟨account, found, rfl⟩ := Option.map_eq_some_iff.1 remoded
    exact .remoded account _ found
  | modeUnsaved _ _ changed =>
    simp only [Books.withPlayers_players, (Store.Players.commit_failed changed).1]
    exact .kept
  | modeUnlinked _ _ changed =>
    simp only [Books.withPlayers_players, (Store.Players.commit_nothing changed).2]
    exact .kept
  | queryFailed _ asked | userFailed _ asked _ | topFailed _ asked _ | topEmpty _ asked _
  | topShown _ asked _ _ | recentFailed _ asked _ | recentEmpty _ asked _ | recentShown _ asked _
  | setFailed _ asked _ | setTaken _ asked _ _ =>
    simp only [Books.showing_players, Books.noting_players, asked.players_eq]
    exact .kept
  | userShown _ asked _ =>
    simp only [Books.keeping_players, Books.noting_players, asked.players_eq]
    exact .kept
  | scoreShown _ _ | renderUndrawn _ _ _ _ | renderDone _ _ _ _ =>
    simp only [Books.showing_players, Books.noting_players]
    exact .kept
  | _ => exact .kept

end Answer

namespace Session

theorem run_separate (session : Session) {start : State}
    (separate : ∀ position, Separate (start.players position).data.accounts)
    (events : List Event) (position : Nat) :
    Separate ((session.run start events).players position).data.accounts := by
  apply session.run_keeps_data (fun data => Separate data.accounts) _ separate events
  intro context before command outcome after _ ending apart
  exact ending.relinked.separate apart

/-- In every run from stores without shared players, no two senders of a server have accounts for
the same player, and the search for the owner of a player has one answer whatever the order in
which it goes through the accounts. -/
theorem run_owners_unique (session : Session) (start : State)
    (separate : ∀ position, Separate (start.players position).data.accounts)
    (events : List Event) (position : Nat) :
    let players := (session.run start events).players position
    Separate players.data.accounts ∧
      ∀ (remoteId : String) (order : List (String × Account)),
        order.Perm players.data.accounts.entries →
          (order.find? fun entry => entry.2.remoteId == remoteId) = players.owner? remoteId := by
  intro players
  have kept := session.run_separate separate events position
  refine ⟨kept, fun remoteId order reordered => ?_⟩
  apply Table.search?_of_perm (fun account => account.remoteId == remoteId) reordered
  rintro ⟨sender, account⟩ member ⟨other, otherAccount⟩ otherMember held otherHeld
  have found := Table.find?_eq_some.2 member
  have otherFound := Table.find?_eq_some.2 otherMember
  have same : account.remoteId = otherAccount.remoteId :=
    (beq_iff_eq.1 held).trans (beq_iff_eq.1 otherHeld).symm
  have senders := kept sender other account otherAccount found otherFound same
  subst senders
  rw [found] at otherFound
  cases otherFound
  rfl

/-- Two senders ask for one player: it stays with the first, and no search finds the second. -/
theorem run_owners_unique_contested :
    let server : Server := .sample ["lookup_by_name", "top_by_name"] false rfl
    let session := single server
    let link (sender : String) : Event :=
      .message (.lonely "7" "Seven") ⟨"!ex set Seven", ⟨none, sender, none⟩⟩
    let start : State := ⟨fun _ => .onFile .absent, .inMemory⟩
    let players := (session.run start [link "ann", link "bob"]).players 0
    players.owner? "7" = some ("ann", ⟨"7", "Seven", none⟩) ∧ Separate players.data.accounts := by
  intro server session link start players
  have separate : ∀ position, Separate (start.players position).data.accounts := by
    intro position sender other account otherAccount found
    cases found
  exact ⟨by decide, (run_owners_unique session start separate [link "ann", link "bob"] 0).1⟩

end Session

end RhythmBot
