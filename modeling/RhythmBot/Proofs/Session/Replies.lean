import RhythmBot.Proofs.Session.Routing
import RhythmBot.Proofs.Session.Turn
/-!
When a message is answered, and with which text. Main statement: the bot is silent exactly if the
message names no server; else the one reply has the name of the server in front, once, whichever way
the command ends.
-/

namespace RhythmBot.Session

inductive Explained (session : Session) (server : Server) : Failure → String → Prop
  | notFound :
      Explained session server (.remote .notFound) (session.catalog.text "not_found" [])
  | unsupported (operation : String) :
      Explained session server (.remote (.unsupported operation))
        (session.catalog.text "unsupported" [])
  | unresolved (failure : ResolutionFailure) :
      Explained session server (.resolution failure)
        (session.catalog.text failure.key
          [("set", CommandLine.write session.mark server.primaryAlias Command.set.name [])])
  | disturbed (fault : HttpFault) :
      Explained session server (.remote (.http fault)) (session.catalog.text "failure" [])
  | unsaved : Explained session server .save (session.catalog.text "failure" [])
  | other (message : String) :
      Explained session server (.other message) (session.catalog.text "failure" [])
  | panicked : Explained session server .panic (session.catalog.text "failure" [])

/-- The reply to an invocation by the way in which it ends. -/
structure Told (session : Session) (world : World) (state : State) (message : Message)
    (invocation : Invocation) : Prop where
  /-- A player who is not found is explained, and no server is asked. -/
  unresolved : ∀ failure,
    session.contextFor world state message.origin invocation = .error failure →
    session.handle world state message =
      ⟨some (.ofText ("[" ++ invocation.server.name ++ "] " ++
        session.catalog.text failure.key
          [("set", CommandLine.write session.mark invocation.server.primaryAlias
            Command.set.name [])])), [], state.seen message.origin⟩
  /-- What a command answers is told with the server in front of the text of that exit. -/
  answered : ∀ context reply after,
    session.contextFor world state message.origin invocation = .ok context →
    (Answer.ofCommand invocation.command).run context
      ((state.seen message.origin).books invocation.position) = (.ok reply, after) →
    Answer.Ending context ((state.seen message.origin).books invocation.position)
        invocation.command (.ok reply) after ∧
      (session.handle world state message).reply =
        some { reply with text := "[" ++ invocation.server.name ++ "] " ++ reply.text }
  /-- A failure of a command is explained by its cause. -/
  failed : ∀ context failure after,
    session.contextFor world state message.origin invocation = .ok context →
    (Answer.ofCommand invocation.command).run context
      ((state.seen message.origin).books invocation.position) = (.error failure, after) →
    ∃ text, session.Explained invocation.server failure text ∧
      (session.handle world state message).reply =
        some (.ofText ("[" ++ invocation.server.name ++ "] " ++ text))

/-- When and how a message is replied to. -/
structure Replies (session : Session) (world : World) (state : State) (message : Message) :
    Prop where
  /-- Only a message that names a server is replied to. -/
  silent : (session.handle world state message).reply = none ↔
    ¬ ∃ name more position server, session.Names message.body name more position server
  /-- A message without reply does nothing. -/
  idle : (session.handle world state message).reply = none →
    (session.handle world state message).calls = [] ∧
      (session.handle world state message).state = state
  /-- Nor does one with a command that the server does not offer, which is told how to get help. -/
  unknown : ∀ name spoken arguments position server,
    session.Names message.body name (spoken :: arguments) position server →
    (∀ command ∈ server.commands, spoken ∉ command.aliases) →
    session.handle world state message =
      ⟨some (.ofText ("[" ++ server.name ++ "] " ++
        session.catalog.text "unknown_command"
          [("command", spoken),
            ("help", CommandLine.write session.mark name Command.help.name [])])), [], state⟩
  /-- A command that the server offers is run under any of its aliases. -/
  known : ∀ name spoken arguments position server command,
    session.Names message.body name (spoken :: arguments) position server →
    command ∈ server.commands → spoken ∈ command.aliases →
    session.Told world state message ⟨position, server, command, arguments⟩
  /-- A server named alone tells its help, and no server is asked. -/
  alone : ∀ name position server, session.Names message.body name [] position server →
    session.Told world state message ⟨position, server, .help, []⟩ ∧
      (session.handle world state message).reply =
        some (.ofText ("[" ++ server.name ++ "] " ++
          Report.help session.catalog server.name server.link
            (String.ofList [session.mark] ++ server.primaryAlias) server.commands)) ∧
      (session.handle world state message).calls = []

variable {session : Session} {world : World} {state : State} {message : Message}
  {invocation : Invocation}

theorem explained_failureText (session : Session) (server : Server) (failure : Failure) :
    session.Explained server failure (session.failureText server failure) := by
  cases failure with
  | remote error =>
    cases error with
    | notFound => exact .notFound
    | unsupported operation => exact .unsupported operation
    | http fault => exact .disturbed fault
  | resolution failure => exact .unresolved failure
  | save => exact .unsaved
  | other message => exact .other message
  | panic => exact .panicked

theorem told_of_route (routed : session.route message.body = .invocation invocation) :
    session.Told world state message invocation := by
  refine ⟨?_, ?_, ?_⟩
  · intro failure unresolved
    rw [handle_lost routed unresolved]
    rfl
  · intro context reply after prepared ran
    have ending := Answer.ending context
      ((state.seen message.origin).books invocation.position) invocation.command
    rw [ran] at ending
    exact ⟨ending, (handle_run routed prepared ran).1⟩
  · intro context failure after prepared ran
    have explained := explained_failureText session invocation.server failure
    exact ⟨_, explained, (handle_run routed prepared ran).1⟩

/-- A message is not replied to exactly if it leads nowhere. -/
theorem reply_eq_none (session : Session) (world : World) (state : State) (message : Message) :
    (session.handle world state message).reply = none ↔
      session.route message.body = .ignored := by
  unfold handle
  cases routed : session.route message.body with
  | ignored => simp
  | unknownCommand text => simp
  | invocation invocation =>
    simp only [dispatch_eq]
    cases session.contextFor world state message.origin invocation <;> simp

theorem handle_ignored (ignored : session.route message.body = .ignored) :
    session.handle world state message = ⟨none, [], state⟩ := by
  unfold handle
  rw [ignored]

/-- A session built by adding servers replies to every message that names one, with the name of the
server in front of the text, and to no other message. -/
theorem handle_replies (session : Session) (world : World) (state : State) (message : Message)
    (built : session.Built) : session.Replies world state message := by
  refine ⟨?_, ?_, ?_, ?_, ?_⟩
  · rw [reply_eq_none]
    exact built.route_ignored
  · intro silent
    have ignored := (reply_eq_none session world state message).1 silent
    rw [handle_ignored ignored]
    exact ⟨rfl, rfl⟩
  · intro name spoken arguments position server names unknown
    have routed := names.route_unknown built unknown
    unfold handle
    rw [routed]
    rfl
  · intro name spoken arguments position server command names offered called
    exact told_of_route (names.route_known built offered called)
  · intro name position server names
    have routed := names.route_alone built
    have prepared : session.contextFor world state message.origin ⟨position, server, .help, []⟩ =
        .ok _ := rfl
    obtain ⟨replied, calls⟩ := handle_run routed prepared rfl
    exact ⟨told_of_route routed, replied, calls⟩

/-- A word that is no command of the server is told to be unknown, once in the name of the server. -/
theorem handle_replies_small :
    let server : Server := .sample ["lookup_by_name", "top_by_name"] false rfl
    let session := single server
    let state : State := ⟨fun _ => .inMemory, .inMemory⟩
    let message : Message := ⟨" !ex dance", ⟨some "5", "ann", none⟩⟩
    (session.handle (.lonely "7" "Seven") state message).reply.map Reply.text =
        some "[Example] Unknown command `dance`. Type `!ex help` for the list of commands." ∧
      session.Built ∧ session.Replies (.lonely "7" "Seven") state message := by
  intro server session state message
  have added : (empty '!' .default).addServer server = .ok session := rfl
  have built : session.Built := .added (.empty '!' .default) added
  exact ⟨by decide, built, handle_replies session (.lonely "7" "Seven") state message built⟩

end RhythmBot.Session
