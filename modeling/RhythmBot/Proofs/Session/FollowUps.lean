import RhythmBot.Proofs.Answer.Buttons
import RhythmBot.Proofs.Session.Routing
import RhythmBot.Proofs.Session.Turn
/-!
The command lines that replies contain: those of their buttons, the help line about an unknown
command and the line that links an account. Main statement: sent as a message, each of them leads to
the command that it was written for.
-/

namespace RhythmBot.Session

variable {session : Session} {world : World} {state : State} {message : Message} {turn : Turn}
  {invocation : Invocation}

/-- What the command lines in the reply to a message lead to. -/
structure FollowUps (session : Session) (world : World) (state : State) (message : Message) :
    Prop where
  /-- The line of each button leads to the command that the button names, on the same server, in the
  mode of the reply and with the words of its target. -/
  buttons : ∀ reply, (session.handle world state message).reply = some reply →
    ∀ row ∈ reply.buttons, ∀ button ∈ row,
      ∃ (invocation : Invocation) (context : Context) (command : Command) (target : String),
        session.route message.body = .invocation invocation ∧
        session.contextFor world state message.origin invocation = .ok context ∧
        context.Offers (session.handle world state message).calls button command target ∧
        session.route button.command =
          .invocation ⟨invocation.position, invocation.server, command,
            context.mode.name :: Text.words target⟩ ∧
        (Arguments.parse command.takesMods (context.mode.name :: Text.words target)).mode =
          some context.mode ∧
        (Arguments.parse command.takesMods (context.mode.name :: Text.words target)).full =
          Text.words target
  /-- The help line about an unknown command leads to the help of the server. -/
  help : ∀ text, session.route message.body = .unknownCommand text →
    ∃ (line : CommandLine) (position : Nat) (server : Server),
      CommandLine.read? session.mark message.body = some line ∧
      session.server? line.server = some (position, server) ∧
      text = Reply.tagged server.name
        (session.catalog.text "unknown_command"
          [("command", line.command.getD Command.help.name),
            ("help", CommandLine.write session.mark line.server Command.help.name [])]) ∧
      session.route (CommandLine.write session.mark line.server Command.help.name []) =
        .invocation ⟨position, server, .help, []⟩
  /-- The line that links an account, in the reply about a player who is not found and in the one
  about a default mode without account, leads to that command of the server. -/
  set : ∀ invocation, session.route message.body = .invocation invocation →
    let set := CommandLine.write session.mark invocation.server.primaryAlias Command.set.name []
    session.route set = .invocation ⟨invocation.position, invocation.server, .set, []⟩ ∧
      (∀ failure, session.contextFor world state message.origin invocation = .error failure →
        (session.handle world state message).reply =
          some ((Reply.ofText (session.catalog.text failure.key [("set", set)])).tag
            invocation.server.name)) ∧
      (∀ mode, invocation.command = .mode →
        Arguments.parse false invocation.tokens = ⟨some mode, [], [], []⟩ →
        (state.players invocation.position).account? message.origin.sender = none →
        (session.handle world state message).reply =
          some ((Reply.ofText (session.catalog.text "no_linked_account" [("set", set)])).tag
            invocation.server.name))

/-- What stays true of a session that is set up: it is built by adding servers, their first aliases
are words, and they render exactly if there is a renderer. -/
structure Ready (session : Session) (world : World) : Prop where
  built : session.Built
  words : ∀ server ∈ session.servers.values, Text.IsWord server.primaryAlias
  renders : ∀ server ∈ session.servers.values, server.renders = world.renderer.isSome

theorem Ready.route_write (ready : session.Ready world)
    (routed : session.route message.body = .invocation invocation) {command : Command}
    (offered : command ∈ invocation.server.commands) (arguments : List String) :
    session.route (CommandLine.write session.mark invocation.server.primaryAlias command.name
        arguments) =
      .invocation ⟨invocation.position, invocation.server, command,
        arguments.flatMap Text.words⟩ := by
  have word := ready.words _ (List.mem_of_getElem? (invocation_of_route routed).1)
  exact ready.built.route_write routed word offered arguments

theorem set_offered (server : Server) : Command.set ∈ server.commands :=
  List.mem_filter.2 ⟨Command.mem_all .set, rfl⟩

theorem Handled.offers (turned : Handled session world state message turn) {reply : Reply}
    (answered : turn.reply = some reply) {row : List Button} (listed : row ∈ reply.buttons)
    {button : Button} (pressed : button ∈ row) :
    ∃ (invocation : Invocation) (context : Context) (command : Command) (target : String),
      session.route message.body = .invocation invocation ∧
        session.contextFor world state message.origin invocation = .ok context ∧
        context.Offers turn.calls button command target := by
  cases turned with
  | ignored _ => cases answered
  | unknown _ | unresolved _ _ =>
    cases answered
    cases listed
  | @answered invocation context outcome _ routed prepared ending =>
    cases answered
    cases outcome with
    | error failure => cases listed
    | ok reply =>
      obtain ⟨command, target, offers⟩ := ending.offers listed pressed
      exact ⟨invocation, context, command, target, routed, prepared, offers⟩

/-- The line of a button leads to the command that it names, in the mode of the context. -/
theorem Built.route_button (built : session.Built)
    (routed : session.route message.body = .invocation invocation)
    (word : Text.IsWord invocation.server.primaryAlias) {context : Context}
    (prepared : session.contextFor world state message.origin invocation = .ok context)
    {calls : List Call} {button : Button} {command : Command} {target : String}
    (offers : context.Offers calls button command target)
    (renders : command = .render → invocation.server.renders = world.renderer.isSome) :
    session.route button.command =
      .invocation ⟨invocation.position, invocation.server, command,
        context.mode.name :: Text.words target⟩ := by
  obtain ⟨reference, _, known⟩ := contextFor_eq_ok prepared
  have server : context.server = invocation.server := by rw [known, Session.context]
  have mark : context.mark = session.mark := by rw [known, Session.context]
  have offered : command ∈ context.server.commands := by
    apply offers.isOffered
    rw [known]
    exact renders
  rw [server] at offered
  have words : [context.mode.name, target].flatMap Text.words =
      context.mode.name :: Text.words target := by
    simp only [List.flatMap_cons, List.flatMap_nil, List.append_nil,
      Text.words_of_isWord context.mode.isWord_name, List.singleton_append]
  rw [offers.command_eq, Context.followUp, server, mark,
    built.route_write routed word offered, words]

theorem Ready.route_button (ready : session.Ready world)
    (routed : session.route message.body = .invocation invocation) {context : Context}
    (prepared : session.contextFor world state message.origin invocation = .ok context)
    {calls : List Call} {button : Button} {command : Command} {target : String}
    (offers : context.Offers calls button command target) :
    session.route button.command =
      .invocation ⟨invocation.position, invocation.server, command,
        context.mode.name :: Text.words target⟩ := by
  have listed := List.mem_of_getElem? (invocation_of_route routed).1
  exact ready.built.route_button routed (ready.words _ listed) prepared offers
    fun _ => ready.renders _ listed

/-- In a session that is set up, every command line that a reply contains leads to the command that
it was written for, whatever the state and the answers of the world. -/
theorem handle_followUps (session : Session) (world : World) (state : State) (message : Message)
    (ready : session.Ready world) : session.FollowUps world state message := by
  refine ⟨?_, ?_, ?_⟩
  · intro reply answered row listed button pressed
    obtain ⟨invocation, context, command, target, routed, prepared, offers⟩ :=
      (session.handled world state message).offers answered listed pressed
    have taken := Arguments.parse_modeName command.takesMods context.mode (Text.words target)
    exact ⟨invocation, context, command, target, routed, prepared, offers,
      ready.route_button routed prepared offers, taken.1, taken.2⟩
  · intro text routed
    have way := session.routed message.body
    rw [routed] at way
    cases way with
    | @unknown line position server read found _ =>
      refine ⟨line, position, server, read, found, rfl, ?_⟩
      exact route_write (CommandLine.read?_eq_some read).1 (CommandLine.server_isWord read) found
        (help_offered server) []
  · intro invocation routed
    refine ⟨ready.route_write routed (set_offered invocation.server) [], ?_, ?_⟩
    · intro failure unresolved
      unfold handle
      simp only [routed, dispatch_eq, unresolved]
      rfl
    · intro mode named parsed missing
      have prepared : session.contextFor world state message.origin invocation =
          .ok (session.context world (state.players invocation.position) message.origin invocation
            ⟨some mode, [], [], []⟩ none) := by
        unfold contextFor player
        rw [named]
        simp only [Command.takesMods, parsed]
        rfl
      have ending := Answer.ending (session.context world (state.players invocation.position)
        message.origin invocation ⟨some mode, [], [], []⟩ none)
        ((state.seen message.origin).books invocation.position) .mode
      have before : ((state.seen message.origin).books invocation.position).players.account?
          message.origin.sender = none := by
        rw [State.books_players, State.seen_players]
        exact missing
      have outcome := ending.unlinked rfl rfl before
      unfold handle
      simp only [routed, dispatch_eq, prepared, named, outcome]
      rfl

/-- The button below a profile asks for the best plays of the player. -/
theorem handle_followUps_small :
    let server : Server := .sample ["lookup_by_name", "top_by_name"] false rfl
    let session := single server
    let state : State := ⟨fun _ => .inMemory, .inMemory⟩
    let message : Message := ⟨"!ex user Seven", ⟨none, "ann", none⟩⟩
    ((session.handle (.lonely "7" "Seven") state message).reply.bind (·.button? 0 0)).map
        Button.command = some "!ex top standard Seven" ∧
      session.FollowUps (.lonely "7" "Seven") state message := by
  intro server session state message
  have added : (empty '!' .default).addServer server = .ok session := rfl
  have built : Session.Built session := .added (.empty '!' .default) added
  have only : ∀ other ∈ session.servers.values,
      Text.IsWord other.primaryAlias ∧ other.renders = false := by
    intro other listed
    rw [List.mem_singleton.1 listed]
    decide
  exact ⟨by decide, handle_followUps session (.lonely "7" "Seven") state message
    ⟨built, fun other listed => (only other listed).1, fun other listed => (only other listed).2⟩⟩

end RhythmBot.Session
