import RhythmBot.Proofs.Answer.Written
import RhythmBot.Proofs.Session.Turn
/-!
What a message leaves as it was: the players of every other server, the accounts of every other
sender, and everything but one account and one record of the server that answers. Main statement:
every turn is confined so, whatever the state and the answers of the world.
-/

namespace RhythmBot.Session

/-- A command that acknowledges a change of its sender's account, from the account before to the one
afterwards, with the reply that says so. -/
inductive Acknowledged (catalog : Catalog) : Command → Option Account → Option Account → Reply → Prop
  | set (before : Option Account) (account : Account) :
      Acknowledged catalog .set before (some account)
        (.ofText (catalog.text "set_done"
          [("nickname", account.nickname), ("id", account.remoteId)]))
  | unset (account : Account) :
      Acknowledged catalog .unset (some account) none (.ofText (catalog.text "unset_done" []))
  | mode (account : Account) (mode : Mode) :
      Acknowledged catalog .mode (some account) (some { account with mode := some mode })
        (.ofText (catalog.text "mode_done" [("mode", mode.name)]))

/-- How far a message reaches into the stores of players. -/
structure Confined (session : Session) (world : World) (state : State) (message : Message) :
    Prop where
  /-- The players of a server that the message does not lead to stay as they are. -/
  elsewhere : ∀ position,
    (∀ invocation, session.route message.body = .invocation invocation →
      invocation.position ≠ position) →
    (session.handle world state message).state.players position = state.players position
  /-- So do those of the server that it leads to if the player of the command is not found. -/
  unresolved : ∀ invocation failure, session.route message.body = .invocation invocation →
    session.contextFor world state message.origin invocation = .error failure →
    (session.handle world state message).state.players = state.players
  /-- Else they are what the run of the command writes, and the reply is made of its outcome. -/
  written : ∀ invocation context outcome after,
    session.route message.body = .invocation invocation →
    session.contextFor world state message.origin invocation = .ok context →
    (Answer.ofCommand invocation.command).run context
      ((state.seen message.origin).books invocation.position) = (outcome, after) →
    (session.handle world state message).reply =
        some ((session.replyTo invocation.server outcome).tag invocation.server.name) ∧
      Answer.Written context (state.players invocation.position)
        (session.handle world state message).calls invocation.command outcome
        ((session.handle world state message).state.players invocation.position).data
  /-- A command that fails, wherever it stops, writes nothing. -/
  failed : ∀ invocation context failure after,
    session.route message.body = .invocation invocation →
    session.contextFor world state message.origin invocation = .ok context →
    (Answer.ofCommand invocation.command).run context
      ((state.seen message.origin).books invocation.position) = (.error failure, after) →
    ((session.handle world state message).state.players invocation.position).data =
      (state.players invocation.position).data
  /-- The other senders keep their accounts. -/
  others : ∀ position sender, sender ≠ message.origin.sender →
    ((session.handle world state message).state.players position).account? sender =
      (state.players position).account? sender
  /-- The account of the sender changes only if the reply acknowledges the change. -/
  account : ∀ invocation, session.route message.body = .invocation invocation →
    let before := (state.players invocation.position).account? message.origin.sender
    let after := ((session.handle world state message).state.players
      invocation.position).account? message.origin.sender
    after ≠ before →
      ∃ reply, Acknowledged session.catalog invocation.command before after reply ∧
        (session.handle world state message).reply = some (reply.tag invocation.server.name)
  /-- The records change only by the one that the message had fetched last for a profile or a link,
  filed under its own player and mode. -/
  records : ∀ invocation, session.route message.body = .invocation invocation →
    let before := (state.players invocation.position).data.records
    let after :=
      ((session.handle world state message).state.players invocation.position).data.records
    after = before ∨
      ∃ record, (invocation.command = .user ∨ invocation.command = .set) ∧
        Answer.fetched? (world.remote invocation.position)
          (session.handle world state message).calls = some record ∧
        after = before.insert (Store.PlayerData.recordKey record.playerId record.mode) record

variable {session : Session} {world : World} {state : State} {message : Message} {turn : Turn}
  {invocation : Invocation} {context : Context}

theorem Handled.elsewhere (turned : Handled session world state message turn) {position : Nat}
    (away : ∀ invocation, session.route message.body = .invocation invocation →
      invocation.position ≠ position) :
    turn.state.players position = state.players position := by
  cases turned with
  | ignored _ | unknown _ => rfl
  | unresolved _ _ => rw [State.seen_players]
  | @answered invocation _ _ _ routed _ _ =>
    have other : position ≠ invocation.position := (away invocation routed).symm
    rw [State.taking_players, if_neg other, State.seen_players]

theorem Handled.unresolved_players (turned : Handled session world state message turn)
    (routed : session.route message.body = .invocation invocation) {failure : ResolutionFailure}
    (unresolved : session.contextFor world state message.origin invocation = .error failure) :
    turn.state.players = state.players := by
  cases turned with
  | ignored _ | unknown _ => rfl
  | unresolved _ _ => exact State.seen_players state message.origin
  | answered sameRoute prepared _ =>
    rw [routed] at sameRoute
    cases sameRoute
    rw [unresolved] at prepared
    cases prepared

/-- A command that runs leaves what it writes, and the reply is made of its outcome. -/
theorem handle_writes (routed : session.route message.body = .invocation invocation)
    (prepared : session.contextFor world state message.origin invocation = .ok context)
    {outcome : Outcome Reply} {after : Books}
    (ran : (Answer.ofCommand invocation.command).run context
      ((state.seen message.origin).books invocation.position) = (outcome, after)) :
    (session.handle world state message).reply =
        some ((session.replyTo invocation.server outcome).tag invocation.server.name) ∧
      Answer.Written context (state.players invocation.position)
        (session.handle world state message).calls invocation.command outcome
        ((session.handle world state message).state.players invocation.position).data := by
  obtain ⟨same, later, alsoRan, ending, turned⟩ := handle_ends routed prepared
  rw [ran] at alsoRan
  cases alsoRan
  have written := ending.written rfl
  rw [State.books_players, State.seen_players] at written
  rw [turned]
  refine ⟨rfl, ?_⟩
  rw [State.taking_players, if_pos rfl]
  exact written

/-- What an invocation does to the data of its server, however it ends: nothing, or what its command
writes in a context with the sender of the message and the server of the invocation. -/
theorem handle_data_cases (world : World) (state : State)
    (routed : session.route message.body = .invocation invocation) :
    let turn := session.handle world state message
    (turn.state.players invocation.position).data = (state.players invocation.position).data ∨
      ∃ (context : Context) (outcome : Outcome Reply),
        context.origin = message.origin ∧ context.catalog = session.catalog ∧
        context.remote = world.remote invocation.position ∧
        turn.reply =
          some ((session.replyTo invocation.server outcome).tag invocation.server.name) ∧
        Answer.Written context (state.players invocation.position) turn.calls
          invocation.command outcome (turn.state.players invocation.position).data := by
  intro turn
  cases prepared : session.contextFor world state message.origin invocation with
  | error failure =>
    left
    rw [(session.handled world state message).unresolved_players routed prepared]
  | ok context =>
    right
    obtain ⟨replied, written⟩ := handle_writes routed prepared rfl
    obtain ⟨reference, _, rfl⟩ := contextFor_eq_ok prepared
    exact ⟨_, _, rfl, rfl, rfl, replied, written⟩

theorem handle_others (session : Session) (world : World) (state : State) (message : Message)
    (position : Nat) {sender : String} (other : sender ≠ message.origin.sender) :
    ((session.handle world state message).state.players position).account? sender =
      (state.players position).account? sender := by
  have away : (∀ invocation, session.route message.body = .invocation invocation →
      invocation.position ≠ position) →
      ((session.handle world state message).state.players position).account? sender =
        (state.players position).account? sender := by
    intro unreached
    rw [(session.handled world state message).elsewhere unreached]
  cases routed : session.route message.body with
  | ignored | unknownCommand _ =>
    apply away
    intro invocation reached
    rw [routed] at reached
    cases reached
  | invocation invocation =>
    by_cases here : invocation.position = position
    · subst here
      unfold Store.Players.account?
      rcases handle_data_cases world state routed with same | ⟨context, _, origin, _, _, _, written⟩
      · rw [same]
      · exact written.find?_other (origin ▸ other)
    · apply away
      intro reached sameRoute
      rw [routed] at sameRoute
      cases sameRoute
      exact here

theorem handle_acknowledged (routed : session.route message.body = .invocation invocation)
    (changed : ((session.handle world state message).state.players invocation.position).account?
        message.origin.sender ≠
      (state.players invocation.position).account? message.origin.sender) :
    ∃ reply,
      Acknowledged session.catalog invocation.command
        ((state.players invocation.position).account? message.origin.sender)
        (((session.handle world state message).state.players invocation.position).account?
          message.origin.sender) reply ∧
      (session.handle world state message).reply = some (reply.tag invocation.server.name) := by
  unfold Store.Players.account? at changed ⊢
  rcases handle_data_cases world state routed with
    same | ⟨context, outcome, origin, catalog, _, replied, written⟩
  · rw [same] at changed
    exact absurd rfl changed
  · rw [replied]
    rw [← origin] at changed ⊢
    rw [← catalog]
    generalize invocation.command = command at written ⊢
    generalize ((session.handle world state message).state.players invocation.position).data = after
      at written changed ⊢
    cases written with
    | failed _ _ | corrected _ | answered _ _ | shown _ => exact absurd rfl changed
    | linked _ _ =>
      refine ⟨_, ?_, rfl⟩
      simp only [Store.PlayerData.file, Store.PlayerData.link, Table.find?_insert, if_true]
      exact .set _ _
    | unlinked found =>
      unfold Store.Players.account? at found
      refine ⟨_, ?_, rfl⟩
      simp only [Table.find?_erase, if_true, found]
      exact .unset _
    | remoded mode found =>
      unfold Store.Players.account? at found
      refine ⟨_, ?_, rfl⟩
      simp only [Store.PlayerData.link, Table.find?_insert, if_true, found]
      exact .mode _ mode

/-- Every turn is confined to the server and the sender of its message. -/
theorem handle_confined (session : Session) (world : World) (state : State) (message : Message) :
    session.Confined world state message := by
  have turned := session.handled world state message
  refine ⟨fun position away => turned.elsewhere away, ?_, ?_, ?_, ?_, ?_, ?_⟩
  · intro invocation failure routed unresolved
    exact turned.unresolved_players routed unresolved
  · intro invocation context outcome after routed prepared ran
    exact handle_writes routed prepared ran
  · intro invocation context failure after routed prepared ran
    obtain ⟨_, written⟩ := handle_writes routed prepared ran
    exact written.data_of_failure
  · intro position sender other
    exact handle_others session world state message position other
  · intro invocation routed before after changed
    exact handle_acknowledged routed changed
  · intro invocation routed before after
    rcases handle_data_cases world state routed with same | ⟨context, outcome, _, _, remote, _, written⟩
    · left
      exact congrArg Store.PlayerData.records same
    · rw [← remote]
      have records := written.records
      cases kept : Answer.kept? context.remote context.origin.sender
          (state.players invocation.position) (session.handle world state message).calls
          invocation.command outcome with
      | none =>
        simp only [kept] at records
        exact .inl records
      | some record =>
        simp only [kept] at records
        obtain ⟨fetching, fetched⟩ := Answer.fetched?_of_kept? kept
        exact .inr ⟨record, fetching, fetched, records⟩

end RhythmBot.Session
