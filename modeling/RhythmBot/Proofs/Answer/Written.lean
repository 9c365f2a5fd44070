import RhythmBot.Proofs.Answer.Ending
/-!
What a command writes. Of the players of its server it changes the account of its sender, or it files
the record that it fetched last; a command that fails or that corrects its sender writes nothing. Main
statement: each run of a command writes in one of these ways.
-/

namespace RhythmBot.Answer

def fetched? (remote : Remote) (calls : List Call) : Option Record :=
  match calls.getLast? with
  | some (.user query mode) => (remote.user query mode).toOption
  | _ => none

/-- The record that a command keeps: the one fetched last, if its profile is shown or if it is linked,
which it is not while another sender has its player. -/
def kept? (remote : Remote) (sender : String) (players : Store.Players) (calls : List Call) :
    Command → Outcome Reply → Option Record
  | .user, .ok _ => fetched? remote calls
  | .set, .ok _ => (fetched? remote calls).filter fun record =>
    !isTaken players sender record.playerId
  | _, _ => none

/-- The replies that correct the sender of a command about an account, which is then not changed. -/
inductive Corrects (context : Context) (players : Store.Players) :
    List Call → Command → Reply → Prop
  | usage : Corrects context players [] .set (context.usageReply .set)
  | taken {calls : List Call} {record : Record} :
      fetched? context.remote calls = some record →
      isTaken players context.origin.sender record.playerId = true →
      Corrects context players calls .set
        (.ofText (context.text "set_taken" [("nickname", record.nickname)]))
  | missing (calls : List Call) :
      Corrects context players calls .unset (.ofText (context.text "unset_missing" []))
  | unlisted (calls : List Call) :
      Corrects context players calls .mode
        (.ofText (context.text "mode_invalid" [("modes", Mode.listing)]))
  | unlinked (calls : List Call) :
      Corrects context players calls .mode
        (.ofText (context.text "no_linked_account" [("set", context.setLine)]))

/-- What a command makes of the data of its server's players, by its outcome. -/
inductive Written (context : Context) (before : Store.Players) (calls : List Call) :
    Command → Outcome Reply → Store.PlayerData → Prop
  | failed (command : Command) (failure : Failure) :
      Written context before calls command (.error failure) before.data
  | corrected {command : Command} {reply : Reply} :
      Corrects context before calls command reply →
      Written context before calls command (.ok reply) before.data
  | answered {command : Command} (reply : Reply) :
      command ∉ [.user, .set, .unset, .mode] →
      Written context before calls command (.ok reply) before.data
  | shown {record : Record} :
      fetched? context.remote calls = some record →
      Written context before calls .user
        (.ok ((Reply.ofText (Report.profile context.catalog record)).withRow
          (profileButtons context record)))
        (before.data.file record)
  | linked {record : Record} :
      fetched? context.remote calls = some record →
      isTaken before context.origin.sender record.playerId = false →
      Written context before calls .set
        (.ok (.ofText (context.text "set_done"
          [("nickname", record.nickname), ("id", record.playerId)])))
        ((before.data.link context.origin.sender
          ⟨record.playerId, record.nickname, linkedMode context⟩).file record)
  | unlinked {account : Account} :
      before.account? context.origin.sender = some account →
      Written context before calls .unset (.ok (.ofText (context.text "unset_done" [])))
        { before.data with accounts := before.data.accounts.erase context.origin.sender }
  | remoded {account : Account} (mode : Mode) :
      before.account? context.origin.sender = some account →
      Written context before calls .mode
        (.ok (.ofText (context.text "mode_done" [("mode", mode.name)])))
        (before.data.link context.origin.sender { account with mode := some mode })

variable {context : Context} {before after : Books} {command : Command} {outcome : Outcome Reply}

theorem fetched?_noting {middle : Books} {query : PlayerQuery} {record : Record}
    (answered : context.remote.user query context.mode = .ok record) :
    fetched? context.remote (middle.noting (.user query context.mode)).calls = some record := by
  unfold fetched?
  rw [Books.noting_calls, List.getLast?_concat]
  simp only [answered, Except.toOption]

theorem answered_of_fetched? {remote : Remote} {query : PlayerQuery} {mode : Mode}
    {record : Record} (fetched : fetched? remote [.user query mode] = some record) :
    remote.user query mode = .ok record := by
  simp only [fetched?, List.getLast?_singleton] at fetched
  cases answered : remote.user query mode with
  | error failure =>
    rw [answered] at fetched
    cases fetched
  | ok given =>
    rw [answered] at fetched
    cases fetched
    rfl

/-- Each way in which a command ends writes in one of the ways listed. -/
theorem Ending.written (ending : Ending context before command outcome after)
    (fresh : before.calls = []) :
    Written context before.players after.calls command outcome after.players.data := by
  cases ending with
  | playerless _ _ => exact .failed command _
  | queryFailed _ asked =>
    rw [asked.players_eq]
    exact .failed command _
  | userFailed _ asked _ | topFailed _ asked _ | recentFailed _ asked _ | setFailed _ asked _ =>
    rw [Books.noting_players, asked.players_eq]
    exact .failed _ _
  | topEmpty _ asked _ | topShown _ asked _ _ | recentEmpty _ asked _ =>
    rw [Books.noting_players, asked.players_eq]
    exact .answered _ (by decide)
  | recentShown _ asked _ =>
    rw [Books.showing_players, Books.noting_players, asked.players_eq]
    exact .answered _ (by decide)
  | userShown _ asked answered =>
    rw [Books.keeping_players, Books.noting_players, asked.players_eq]
    exact .shown (fetched?_noting answered)
  | setUnnamed _ =>
    rw [fresh]
    exact .corrected .usage
  | setUnresolved _ => exact .failed _ _
  | setTaken _ asked answered taken =>
    rw [asked.players_eq] at taken
    rw [Books.noting_players, asked.players_eq]
    exact .corrected (.taken (fetched?_noting answered) taken)
  | setUnsaved _ asked _ _ changed =>
    rw [Books.withPlayers_players, (Store.Players.commit_failed changed).1, asked.players_eq]
    exact .failed _ _
  | setDone _ asked answered free changed =>
    obtain ⟨data, linked, rfl⟩ := Store.Players.commit_saved changed
    cases linked
    rw [asked.players_eq] at free ⊢
    exact .linked (fetched?_noting answered) free
  | unsetMissing changed =>
    rw [Books.withPlayers_players, (Store.Players.commit_nothing changed).2]
    exact .corrected (.missing _)
  | unsetUnsaved changed =>
    rw [Books.withPlayers_players, (Store.Players.commit_failed changed).1]
    exact .failed _ _
  | unsetDone changed =>
    obtain ⟨data, removed, rfl⟩ := Store.Players.commit_saved changed
    obtain ⟨account, found, rfl⟩ := Option.map_eq_some_iff.1 removed
    exact .unlinked found
  | modeUnnamed _ => exact .corrected (.unlisted _)
  | modeUnlinked _ _ changed =>
    rw [Books.withPlayers_players, (Store.Players.commit_nothing changed).2]
    exact .corrected (.unlinked _)
  | modeUnsaved _ _ changed =>
    rw [Books.withPlayers_players, (Store.Players.commit_failed changed).1]
    exact .failed _ _
  | modeDone _ _ changed =>
    obtain ⟨data, remoded, rfl⟩ := Store.Players.commit_saved changed
    obtain ⟨account, found, rfl⟩ := Option.map_eq_some_iff.1 remoded
    exact .remoded _ found
  | boardFailed _ _ _ _ | scoreFailed _ _ | renderFailed _ _ _ => exact .failed _ _
  | scoreShown _ _ =>
    rw [Books.showing_players, Books.noting_players]
    exact .answered _ (by decide)
  | renderUndrawn _ _ _ _ =>
    rw [Books.noting_players, Books.showing_players, Books.noting_players]
    exact .failed _ _
  | renderDone _ _ _ _ =>
    rw [Books.noting_players, Books.showing_players, Books.noting_players]
    exact .answered _ (by decide)
  | _ => exact .answered _ (by decide)

namespace Written

variable {players : Store.Players} {calls : List Call} {next : Store.PlayerData}

theorem data_of_failure {failure : Failure}
    (written : Written context players calls command (.error failure) next) :
    next = players.data := by
  cases written
  rfl

theorem find?_other (written : Written context players calls command outcome next)
    {sender : String} (other : sender ≠ context.origin.sender) :
    next.accounts.find? sender = players.account? sender := by
  unfold Store.Players.account?
  cases written with
  | failed _ _ | corrected _ | answered _ _ => rfl
  | shown _ => rfl
  | linked _ _ =>
    simp only [Store.PlayerData.file, Store.PlayerData.link, Table.find?_insert, if_neg other]
  | unlinked _ => simp only [Table.find?_erase, if_neg other]
  | remoded _ _ => simp only [Store.PlayerData.link, Table.find?_insert, if_neg other]

/-- The records stay, apart from the one that is kept: it is filed under its own player and mode. -/
theorem records (written : Written context players calls command outcome next) :
    next.records =
      match kept? context.remote context.origin.sender players calls command outcome with
      | none => players.data.records
      | some record => (players.data.file record).records := by
  cases written with
  | failed _ _ => cases command <;> rfl
  | corrected corrects =>
    cases corrects with
    | usage => rfl
    | taken fetched taken => simp only [kept?, fetched, Option.filter, taken]; rfl
    | missing _ | unlisted _ | unlinked _ => rfl
  | answered _ other =>
    cases command with
    | user | set => simp at other
    | _ => rfl
  | shown fetched => simp only [kept?, fetched]
  | linked fetched free =>
    simp only [kept?, fetched, Option.filter, free]
    rfl
  | unlinked _ => rfl
  | remoded _ _ => rfl

/-- A record kept in linking an account is the one that the account is for. -/
theorem linked_of_kept? (written : Written context players calls .set outcome next)
    {record : Record}
    (kept : kept? context.remote context.origin.sender players calls .set outcome = some record) :
    outcome = .ok (.ofText (context.text "set_done"
        [("nickname", record.nickname), ("id", record.playerId)])) ∧
      fetched? context.remote calls = some record ∧
      next = (players.data.link context.origin.sender
        ⟨record.playerId, record.nickname, linkedMode context⟩).file record := by
  cases written with
  | failed _ _ => cases kept
  | corrected corrects =>
    cases corrects with
    | usage => cases kept
    | taken fetched taken =>
      simp only [kept?, fetched, Option.filter, taken] at kept
      cases kept
  | answered _ other => simp at other
  | linked fetched free =>
    simp only [kept?, fetched, Option.filter, free] at kept
    cases kept
    exact ⟨rfl, fetched, rfl⟩

end Written

theorem fetched?_of_kept? {remote : Remote} {sender : String} {players : Store.Players}
    {calls : List Call} {record : Record}
    (kept : kept? remote sender players calls command outcome = some record) :
    (command = .user ∨ command = .set) ∧ fetched? remote calls = some record := by
  unfold kept? at kept
  split at kept
  · exact ⟨.inl rfl, kept⟩
  · exact ⟨.inr rfl, (Option.filter_eq_some_iff.1 kept).1⟩
  · cases kept

end RhythmBot.Answer
