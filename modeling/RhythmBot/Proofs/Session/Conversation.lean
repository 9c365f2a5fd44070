import RhythmBot.Proofs.Answer.Buttons
import RhythmBot.Proofs.Answer.Calls
import RhythmBot.Proofs.Session.Capable
/-!
What a turn asks. Main statement: every call of a turn and every button of its reply are in the one
mode of the message; there are two calls at most, none behind a failure; and a player is looked up
before the plays only where the server has not the form in which the player is given.
-/

namespace RhythmBot.Session

variable {session : Session} {world : World} {state : State} {message : Message}
  {invocation : Invocation} {reference : Option Reference}

/-- What is asked in a turn of an invocation whose player is found, by the mode that applies. -/
structure Conversation (session : Session) (world : World) (invocation : Invocation)
    (arguments : Arguments) (reference : Option Reference) (mode : Mode) (turn : Turn) :
    Prop where
  /-- Two calls at most, all in the mode, and each but the last answered. -/
  concise : Concise (world.remote invocation.position) world.renderer mode turn.calls
  /-- The buttons are command lines in the mode. -/
  buttons : ∀ reply, turn.reply = some reply → ∀ row ∈ reply.buttons, ∀ button ∈ row,
    ∃ (command : Command) (target : String),
      button.command = CommandLine.write session.mark invocation.server.primaryAlias command.name
        [mode.name, target]
  /-- Commands about what the bot itself knows ask nobody. -/
  quiet : invocation.command ∈ [.help, .unset, .mode, .chat] → turn.calls = []
  /-- Nor does linking without a player to look up. -/
  unnamed : invocation.command = .set →
    (∀ player,
      Identity.explicit? invocation.server.capabilities arguments ≠ some (.ok player)) →
    turn.calls = []
  /-- A player is looked up by one call. -/
  lookups : invocation.command ∈ [.user, .set] →
    turn.calls = [] ∨ ∃ query, turn.calls = [.user query mode]
  /-- A command that shows what an operation gives asks for that, about its player. -/
  plays : ∀ operation : Operation, operation.command = invocation.command →
    ∃ player, reference = some player ∧
      Asks invocation.server.capabilities (world.remote invocation.position) mode operation player
        turn.calls

theorem concerns_of_player (session : Session) (world : World) {players : Store.Players}
    {origin : Origin} {arguments : Arguments}
    (resolved : player invocation players origin arguments = .ok reference)
    {operation : Operation} (shows : operation.command = invocation.command) :
    ∃ known, reference = some known ∧
      Answer.Concerns (session.context world players origin invocation arguments reference)
        invocation.command operation known := by
  have needed : invocation.command.needsPlayer = true := by
    rw [← shows]
    cases operation <;> rfl
  unfold player at resolved
  rw [if_pos needed] at resolved
  cases found : Identity.resolve invocation.server.capabilities players origin arguments with
  | error failure =>
    rw [found] at resolved
    cases resolved
  | ok known =>
    rw [found] at resolved
    cases resolved
    refine ⟨known, rfl, ?_⟩
    rw [← shows]
    cases operation with
    | lookup => exact .user rfl
    | top => exact .top rfl
    | recent => exact .recent rfl

/-- A message whose player is not found asks nobody and offers nothing. -/
theorem handle_unresolved (routed : session.route message.body = .invocation invocation)
    {failure : ResolutionFailure}
    (lost : player invocation (state.players invocation.position) message.origin
      (.parse invocation.command.takesMods invocation.tokens) = .error failure) :
    (session.handle world state message).calls = [] ∧
      ∀ reply, (session.handle world state message).reply = some reply → reply.buttons = [] := by
  rw [handle_lost routed (session.contextFor_of_lost world lost)]
  refine ⟨rfl, ?_⟩
  rintro _ ⟨⟩
  rfl

theorem handle_converses (world : World) (state : State)
    (routed : session.route message.body = .invocation invocation)
    (resolved : player invocation (state.players invocation.position) message.origin
      (.parse invocation.command.takesMods invocation.tokens) = .ok reference) :
    let arguments := Arguments.parse invocation.command.takesMods invocation.tokens
    session.Conversation world invocation arguments reference
      ((arguments.mode <|> reference.bind Reference.mode?
        <|> ((state.players invocation.position).account? message.origin.sender).bind
          Account.mode).getD .standard)
      (session.handle world state message) := by
  intro arguments
  let context := session.context world (state.players invocation.position) message.origin
    invocation arguments reference
  have prepared : session.contextFor world state message.origin invocation = .ok context :=
    session.contextFor_of_player world resolved
  obtain ⟨outcome, after, _, ending, turned⟩ := handle_ends routed prepared
  have offered := offered_of_contextFor routed prepared
  have fits := reference_fits_of_contextFor prepared
  rw [turned]
  refine ⟨ending.concise rfl offered fits, ?_, ending.quiet, ?_,
    ending.lookups rfl offered fits, ?_⟩
  · intro reply answered row listed button pressed
    cases answered
    cases outcome with
    | error failure => cases listed
    | ok reply =>
      obtain ⟨command, target, offers⟩ := ending.offers listed pressed
      exact ⟨command, target, offers.command_eq⟩
  · intro links unnamed
    rw [links] at ending
    apply ending.unconcerned (by decide)
    intro operation known concerns
    cases concerns with
    | set typed => exact unnamed known typed
  · intro operation shows
    obtain ⟨known, rfl, concerns⟩ := concerns_of_player session world resolved shows
    exact ⟨known, rfl, ending.asks rfl offered fits concerns⟩

/-- In every state, a message asks and offers in the mode typed, or else in the default mode of the
account that its command is about, or else in that of the sender's account; if its player is not
found, it asks nobody. -/
theorem handle_conversation (session : Session) (world : World) (state : State)
    (message : Message) {invocation : Invocation}
    (routed : session.route message.body = .invocation invocation) :
    let players := state.players invocation.position
    let arguments := Arguments.parse invocation.command.takesMods invocation.tokens
    let turn := session.handle world state message
    (∀ failure, player invocation players message.origin arguments = .error failure →
      turn.calls = [] ∧ ∀ reply, turn.reply = some reply → reply.buttons = []) ∧
    ∀ reference, player invocation players message.origin arguments = .ok reference →
      session.Conversation world invocation arguments reference
        ((arguments.mode <|> reference.bind Reference.mode?
          <|> (players.account? message.origin.sender).bind Account.mode).getD .standard) turn := by
  intro players arguments turn
  constructor
  · intro failure lost
    exact handle_unresolved routed lost
  · intro reference resolved
    exact handle_converses world state routed resolved

/-- Ann, whose default mode is taiko, asks for the best plays of a player by name, who is looked up
first. -/
theorem handle_conversation_looked_up :
    let server : Server := .sample ["lookup_by_name", "lookup_by_id", "top_by_id"] false rfl
    let session := single server
    let state := session.run ⟨fun _ => .inMemory, .inMemory⟩
      [.message (.lonely "7" "Seven") ⟨"!ex set taiko Seven", ⟨none, "ann", none⟩⟩]
    let turn := session.handle (.lonely "8" "Eight") state ⟨"!ex top Eight", ⟨none, "ann", none⟩⟩
    turn.calls = [.user (.name "Eight") .taiko, .top (.id "8") .taiko 5] ∧
      session.Conversation (.lonely "8" "Eight") ⟨0, server, .top, ["Eight"]⟩
        ⟨none, [], ["Eight"], ["Eight"]⟩ (some (.nickname "Eight")) .taiko turn := by
  intro server session state turn
  have routed : session.route "!ex top Eight" =
      .invocation ⟨0, server, .top, ["Eight"]⟩ := rfl
  exact ⟨rfl, (handle_conversation session (.lonely "8" "Eight") state
    ⟨"!ex top Eight", ⟨none, "ann", none⟩⟩ routed).2 (some (.nickname "Eight")) rfl⟩

end RhythmBot.Session
