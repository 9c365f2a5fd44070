import RhythmBot.Proofs.Answer.Ending
import RhythmBot.Session
/-!
What handling a message comes to, case by case, and the run of a session: messages in worlds that
answer as they like, with snapshots saved in between. Main statement: each turn is one of the cases.
-/

namespace RhythmBot

namespace State

def books (state : State) (position : Nat) : Books :=
  ⟨state.players position, state.chats, []⟩

def taking (state : State) (position : Nat) (books : Books) : State :=
  { state.withPlayers position books.players with chats := books.chats }

@[simp] theorem seen_players (state : State) (origin : Origin) :
    (state.seen origin).players = state.players := by
  unfold seen
  split <;> rfl

@[simp] theorem books_players (state : State) (position : Nat) :
    (state.books position).players = state.players position := rfl

@[simp] theorem books_calls (state : State) (position : Nat) :
    (state.books position).calls = [] := rfl

theorem taking_players (state : State) (position other : Nat) (books : Books) :
    (state.taking position books).players other =
      if other = position then books.players else state.players other := rfl

end State

namespace World

def lonely (playerId nickname : String) : World where
  remote _ :=
    { user := fun _ mode => .ok ⟨playerId, nickname, mode, 0, 0, 0, 0, none⟩
      top := fun _ _ _ => .ok [⟨some "11", "22", "Song", .none, 0, none, "A", 0⟩]
      recent := fun _ _ => .ok [⟨some "11", "22", "Song", .none, 0, none, "A", 0⟩]
      score := fun _ _ => .ok ⟨some "11", "22", "Song", .none, 0, none, "A", 0⟩
      leaderboard := fun _ _ _ _ => .ok [] }
  renderer := none
  disk _ := .succeeds

end World

/-- A server by the flags of what it can do, and whether it draws plays. -/
def Server.sample (flags : List String) (renders : Bool)
    (usable : (Capabilities.ofFlags (flags.contains ·)).validate = .ok ()) : Server :=
  ⟨"Example", "ex", [], "example.org", .ofFlags (flags.contains ·), renders, usable⟩

namespace Session

/-- The context in which an invocation runs, unless its player is not found. -/
def contextFor (session : Session) (world : World) (state : State) (origin : Origin)
    (invocation : Invocation) : Except ResolutionFailure Context :=
  let players := state.players invocation.position
  let arguments := Arguments.parse invocation.command.takesMods invocation.tokens
  (player invocation players origin arguments).map
    (session.context world players origin invocation arguments)

theorem contextFor_of_player (session : Session) (world : World) {state : State} {origin : Origin}
    {invocation : Invocation} {reference : Option Reference}
    (found : player invocation (state.players invocation.position) origin
      (.parse invocation.command.takesMods invocation.tokens) = .ok reference) :
    session.contextFor world state origin invocation =
      .ok (session.context world (state.players invocation.position) origin invocation
        (.parse invocation.command.takesMods invocation.tokens) reference) := by
  simp only [contextFor, found]
  rfl

theorem contextFor_of_lost (session : Session) (world : World) {state : State} {origin : Origin}
    {invocation : Invocation} {failure : ResolutionFailure}
    (lost : player invocation (state.players invocation.position) origin
      (.parse invocation.command.takesMods invocation.tokens) = .error failure) :
    session.contextFor world state origin invocation = .error failure := by
  simp only [contextFor, lost]
  rfl

/-- What an invocation runs in, apart from its world and its session: its player is found first. -/
theorem contextFor_eq_ok {session : Session} {world : World} {state : State} {origin : Origin}
    {invocation : Invocation} {context : Context}
    (prepared : session.contextFor world state origin invocation = .ok context) :
    ∃ reference,
      player invocation (state.players invocation.position) origin
        (Arguments.parse invocation.command.takesMods invocation.tokens) = .ok reference ∧
      context = session.context world (state.players invocation.position) origin invocation
        (Arguments.parse invocation.command.takesMods invocation.tokens) reference := by
  unfold contextFor at prepared
  cases found : player invocation (state.players invocation.position) origin
    (Arguments.parse invocation.command.takesMods invocation.tokens) with
  | error failure =>
    simp only [found] at prepared
    cases prepared
  | ok reference =>
    simp only [found] at prepared
    cases prepared
    exact ⟨reference, rfl, rfl⟩

/-- The mode of a command that needs no player: the one typed, or else the default of the sender. -/
theorem context_mode (session : Session) (world : World) (players : Store.Players)
    (origin : Origin) (invocation : Invocation) (arguments : Arguments) :
    (session.context world players origin invocation arguments none).mode =
      (arguments.mode <|> (players.account? origin.sender).bind Account.mode).getD .standard := by
  unfold Context.mode context
  cases arguments.mode <;> rfl

def replyTo (session : Session) (server : Server) : Outcome Reply → Reply
  | .ok reply => reply
  | .error failure => .ofText (session.failureText server failure)

/-- What handling a message comes to: nothing, a reply about an unknown command or about a player
that is not found, or the ending of a command. -/
inductive Handled (session : Session) (world : World) (state : State) (message : Message) :
    Turn → Prop
  | ignored :
      session.route message.body = .ignored →
      Handled session world state message ⟨none, [], state⟩
  | unknown {text : String} :
      session.route message.body = .unknownCommand text →
      Handled session world state message ⟨some (.ofText text), [], state⟩
  | unresolved {invocation : Invocation} {failure : ResolutionFailure} :
      session.route message.body = .invocation invocation →
      session.contextFor world state message.origin invocation = .error failure →
      Handled session world state message
        ⟨some ((Reply.ofText (session.resolutionText invocation.server failure)).tag
          invocation.server.name), [], state.seen message.origin⟩
  | answered {invocation : Invocation} {context : Context} {outcome : Outcome Reply}
      {after : Books} :
      session.route message.body = .invocation invocation →
      session.contextFor world state message.origin invocation = .ok context →
      Answer.Ending context ((state.seen message.origin).books invocation.position)
        invocation.command outcome after →
      Handled session world state message
        ⟨some ((session.replyTo invocation.server outcome).tag invocation.server.name),
          after.calls, (state.seen message.origin).taking invocation.position after⟩

theorem dispatch_eq (session : Session) (world : World) (state : State) (origin : Origin)
    (invocation : Invocation) :
    session.dispatch world state origin invocation =
      match session.contextFor world state origin invocation with
      | .error failure =>
        ⟨some ((Reply.ofText (session.resolutionText invocation.server failure)).tag
          invocation.server.name), [], state.seen origin⟩
      | .ok context =>
        let ending := (Answer.ofCommand invocation.command).run context
          ((state.seen origin).books invocation.position)
        ⟨some ((session.replyTo invocation.server ending.1).tag invocation.server.name),
          ending.2.calls, (state.seen origin).taking invocation.position ending.2⟩ := by
  unfold dispatch contextFor
  simp only [State.seen_players]
  cases player invocation (state.players invocation.position) origin
    (Arguments.parse invocation.command.takesMods invocation.tokens) with
  | error failure => rfl
  | ok reference =>
    simp only [Except.map, State.books, State.seen_players]
    generalize Answer.run _ _ _ = ending
    rcases ending with ⟨_ | _, after⟩ <;> rfl

theorem handle_prepared {session : Session} {world : World} {state : State} {message : Message}
    {invocation : Invocation} (routed : session.route message.body = .invocation invocation)
    {context : Context}
    (prepared : session.contextFor world state message.origin invocation = .ok context) :
    let ending := (Answer.ofCommand invocation.command).run context
      ((state.seen message.origin).books invocation.position)
    session.handle world state message =
      ⟨some ((session.replyTo invocation.server ending.1).tag invocation.server.name),
        ending.2.calls, (state.seen message.origin).taking invocation.position ending.2⟩ := by
  unfold handle
  simp only [routed, dispatch_eq, prepared]

/-- A message whose player is not found does nothing but count its sender in. -/
theorem handle_lost {session : Session} {world : World} {state : State} {message : Message}
    {invocation : Invocation} (routed : session.route message.body = .invocation invocation)
    {failure : ResolutionFailure}
    (lost : session.contextFor world state message.origin invocation = .error failure) :
    session.handle world state message =
      ⟨some ((Reply.ofText (session.resolutionText invocation.server failure)).tag
        invocation.server.name), [], state.seen message.origin⟩ := by
  unfold handle
  simp only [routed, dispatch_eq, lost]

theorem handle_run {session : Session} {world : World} {state : State} {message : Message}
    {invocation : Invocation} (routed : session.route message.body = .invocation invocation)
    {context : Context}
    (prepared : session.contextFor world state message.origin invocation = .ok context)
    {outcome : Outcome Reply} {after : Books}
    (ran : (Answer.ofCommand invocation.command).run context
      ((state.seen message.origin).books invocation.position) = (outcome, after)) :
    (session.handle world state message).reply =
        some ((session.replyTo invocation.server outcome).tag invocation.server.name) ∧
      (session.handle world state message).calls = after.calls := by
  rw [handle_prepared routed prepared, ran]
  exact ⟨rfl, rfl⟩

theorem handled (session : Session) (world : World) (state : State) (message : Message) :
    Handled session world state message (session.handle world state message) := by
  unfold handle
  cases routed : session.route message.body with
  | ignored => exact .ignored routed
  | unknownCommand text => exact .unknown routed
  | invocation invocation =>
    simp only [dispatch_eq]
    cases prepared : session.contextFor world state message.origin invocation with
    | error failure => exact .unresolved routed prepared
    | ok context => exact .answered routed prepared (Answer.ending ..)

theorem handle_ends {session : Session} {world : World} {state : State} {message : Message}
    {invocation : Invocation} (routed : session.route message.body = .invocation invocation)
    {context : Context}
    (prepared : session.contextFor world state message.origin invocation = .ok context) :
    let books := (state.seen message.origin).books invocation.position
    ∃ outcome after,
      (Answer.ofCommand invocation.command).run context books = (outcome, after) ∧
        Answer.Ending context books invocation.command outcome after ∧
        session.handle world state message =
          ⟨some ((session.replyTo invocation.server outcome).tag invocation.server.name),
            after.calls, (state.seen message.origin).taking invocation.position after⟩ := by
  intro books
  exact ⟨_, _, rfl, Answer.ending context books invocation.command, handle_prepared routed prepared⟩

/-- What every command keeps of the data of its server's players holds for every server after a
turn. -/
theorem Handled.keeps {session : Session} {world : World} {state : State} {message : Message}
    {turn : Turn} (turned : Handled session world state message turn)
    {holds : Store.PlayerData → Prop}
    (kept : ∀ {context before command outcome after}, before.calls = [] →
      Answer.Ending context before command outcome after →
      holds before.players.data → holds after.players.data)
    (start : ∀ position, holds (state.players position).data) (position : Nat) :
    holds (turn.state.players position).data := by
  cases turned with
  | ignored _ | unknown _ => exact start position
  | unresolved _ _ =>
    rw [State.seen_players]
    exact start position
  -- Only the players of the server that answers change.
  | @answered invocation _ _ _ _ _ ending =>
    rw [State.taking_players]
    split
    · apply kept rfl ending
      rw [State.books_players, State.seen_players]
      exact start invocation.position
    · rw [State.seen_players]
      exact start position

/-- What happens in a session: a message is handled, the world answering as it likes, or every store
saves a snapshot in the background. -/
inductive Event where
  | message (world : World) (message : Message)
  | snapshot (players : Nat → Store.Attempt) (chats : Store.Attempt)

def step (session : Session) (state : State) : Event → State
  | .message world message => (session.handle world state message).state
  | .snapshot players chats =>
    ⟨fun position => (state.players position).save (players position), state.chats.save chats⟩

def run (session : Session) : State → List Event → State
  | state, [] => state
  | state, event :: later => session.run (session.step state event) later

theorem run_append (session : Session) (state : State) (earlier later : List Event) :
    session.run state (earlier ++ later) = session.run (session.run state earlier) later := by
  induction earlier generalizing state with
  | nil => rfl
  | cons event rest ih => exact ih (session.step state event)

/-- What every event keeps holds after every run. -/
theorem run_keeps (session : Session) (holds : State → Prop)
    (kept : ∀ state event, holds state → holds (session.step state event))
    (state : State) (start : holds state) (events : List Event) :
    holds (session.run state events) := by
  induction events generalizing state with
  | nil => exact start
  | cons event later ih => exact ih (session.step state event) (kept state event start)

theorem run_keeps_data (session : Session) (holds : Store.PlayerData → Prop)
    (kept : ∀ {context before command outcome after}, before.calls = [] →
      Answer.Ending context before command outcome after →
      holds before.players.data → holds after.players.data)
    {state : State} (start : ∀ position, holds (state.players position).data)
    (events : List Event) :
    ∀ position, holds ((session.run state events).players position).data := by
  apply session.run_keeps (fun state => ∀ position, holds (state.players position).data) _ state
    start
  intro state event start
  cases event with
  | message world message => exact (session.handled world state message).keeps kept start
  | snapshot players chats => exact start

def single (server : Server) : Session :=
  ⟨'!', .default, Table.empty.insert server.primaryAlias 0, [server]⟩

end Session

end RhythmBot
