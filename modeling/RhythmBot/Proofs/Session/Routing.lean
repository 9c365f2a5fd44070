import RhythmBot.Proofs.Command
import RhythmBot.Proofs.CommandLine
import RhythmBot.Proofs.Router
import RhythmBot.Session
/-!
Where messages lead: each way of routing a message body, and what an invocation says about its
session. Main statement: in a session built by adding servers, a command line written for a server
and a command that it offers leads to that command with the words of its arguments.
-/

namespace RhythmBot.Session

inductive Routed (session : Session) (body : String) : Route → Prop
  | unmarked :
      CommandLine.read? session.mark body = none →
      Routed session body .ignored
  | unaddressed {line : CommandLine} :
      CommandLine.read? session.mark body = some line →
      session.server? line.server = none →
      Routed session body .ignored
  | unknown {line : CommandLine} {position : Nat} {server : Server} :
      CommandLine.read? session.mark body = some line →
      session.server? line.server = some (position, server) →
      server.command? (line.command.getD Command.help.name) = none →
      Routed session body (.unknownCommand (session.unknownCommandText server line.server
        (line.command.getD Command.help.name)))
  | known {line : CommandLine} {position : Nat} {server : Server} {command : Command} :
      CommandLine.read? session.mark body = some line →
      session.server? line.server = some (position, server) →
      server.command? (line.command.getD Command.help.name) = some command →
      Routed session body (.invocation ⟨position, server, command, line.arguments⟩)

theorem routed (session : Session) (body : String) : Routed session body (session.route body) := by
  unfold route
  cases read : CommandLine.read? session.mark body with
  | none => exact .unmarked read
  | some line =>
    cases found : session.server? line.server with
    | none => simpa only [found] using .unaddressed read found
    | some place =>
      obtain ⟨position, server⟩ := place
      simp only [found]
      cases named : server.command? (line.command.getD Command.help.name) with
      | none => exact .unknown read found named
      | some command => exact .known read found named

variable {session : Session} {body : String} {invocation : Invocation}

theorem server?_eq_some {name : String} {position : Nat} {server : Server} :
    session.server? name = some (position, server) ↔
      session.servers.position? name = some position ∧
        session.servers.values[position]? = some server := by
  simp only [server?, Option.bind_eq_bind, Option.bind_eq_some_iff, Option.some.injEq,
    Prod.mk.injEq]
  constructor
  · rintro ⟨_, placed, _, found, rfl, rfl⟩
    exact ⟨placed, found⟩
  · rintro ⟨placed, found⟩
    exact ⟨position, placed, server, found, rfl, rfl⟩

/-- An invocation is about a server of the session and a command that the server offers. -/
theorem invocation_of_route (routed : session.route body = .invocation invocation) :
    session.servers.values[invocation.position]? = some invocation.server ∧
      invocation.command ∈ invocation.server.commands := by
  have way := session.routed body
  rw [routed] at way
  cases way with
  | known read found named =>
    unfold Server.command? Command.ofAlias? at named
    exact ⟨(server?_eq_some.1 found).2, List.mem_of_find?_eq_some named⟩

/-- A message is routed only if the mark is no blank. -/
theorem mark_solid_of_route (addressed : session.route body ≠ .ignored) :
    Text.isBlank session.mark = false := by
  have way := session.routed body
  cases routed : session.route body with
  | ignored => exact absurd routed addressed
  | unknownCommand text =>
    rw [routed] at way
    cases way with
    | unknown read _ _ => exact (CommandLine.read?_eq_some read).1
  | invocation invocation =>
    rw [routed] at way
    cases way with
    | known read _ _ => exact (CommandLine.read?_eq_some read).1

/-- A session is built by adding servers. -/
inductive Built : Session → Prop
  | empty (mark : Char) (catalog : Catalog) : Built (.empty mark catalog)
  | added {session next : Session} {server : Server} :
      Built session → session.addServer server = .ok next → Built next

theorem addServer_eq_ok {next : Session} {server : Server}
    (extended : session.addServer server = .ok next) :
    ∃ servers, session.servers.register server.aliases server = .ok servers ∧
      next = { session with servers := servers } := by
  unfold addServer at extended
  cases registered : session.servers.register server.aliases server with
  | error error =>
    rw [registered] at extended
    cases extended
  | ok servers =>
    rw [registered] at extended
    cases extended
    exact ⟨servers, rfl, rfl⟩

theorem register_of_addServer {next : Session} {server : Server}
    (extended : session.addServer server = .ok next) :
    session.servers.register server.aliases server = .ok next.servers := by
  obtain ⟨servers, registered, rfl⟩ := addServer_eq_ok extended
  exact registered

/-- In a session built by adding servers, the aliases of each server lead to it. -/
theorem Built.leads (built : Built session) : session.servers.Leads Server.aliases := by
  induction built with
  | empty mark catalog => exact Router.leads_empty Server.aliases
  | added _ extended leads => exact leads.register (register_of_addServer extended)

theorem Built.backed (built : Built session) : session.servers.Backed Server.aliases := by
  induction built with
  | empty mark catalog => exact Router.backed_empty Server.aliases
  | added _ extended backed => exact backed.register (register_of_addServer extended)

theorem Built.server? (built : Built session) {position : Nat} {server : Server}
    (found : session.servers.values[position]? = some server) {name : String}
    (listed : name ∈ server.aliases) : session.server? name = some (position, server) :=
  server?_eq_some.2 ⟨built.leads position server found name listed, found⟩

/-- In a session built by adding servers, a name leads to the server that has it as an alias. -/
theorem Built.server?_eq_some (built : Built session) {name : String} {position : Nat}
    {server : Server} :
    session.server? name = some (position, server) ↔
      session.servers.values[position]? = some server ∧ name ∈ server.aliases := by
  constructor
  · intro found
    obtain ⟨placed, there⟩ := Session.server?_eq_some.1 found
    obtain ⟨other, alsoThere, listed⟩ := built.backed name position placed
    rw [there] at alsoThere
    cases alsoThere
    exact ⟨there, listed⟩
  · rintro ⟨there, listed⟩
    exact built.server? there listed

/-- A message body names a server: it is addressed to the bot, its first word is an alias of the
server, and other words may follow. -/
structure Names (session : Session) (body name : String) (more : List String) (position : Nat)
    (server : Server) : Prop where
  addressed : CommandLine.Addressed session.mark body (name :: more)
  there : session.servers.values[position]? = some server
  listed : name ∈ server.aliases

theorem Built.route_ignored (built : Built session) :
    session.route body = .ignored ↔
      ¬ ∃ name more position server, session.Names body name more position server := by
  constructor
  · rintro ignored ⟨name, more, position, server, names⟩
    have found := built.server? names.there names.listed
    have way := session.routed body
    rw [ignored] at way
    cases way with
    | unmarked read =>
      rw [names.addressed.read?] at read
      cases more <;> cases read
    | unaddressed read missing =>
      rw [names.addressed.read?] at read
      cases more <;> cases read <;> (rw [found] at missing; cases missing)
  · intro unnamed
    unfold route
    by_cases addressed : ∃ spelled, CommandLine.Addressed session.mark body spelled
    · obtain ⟨spelled, addressed⟩ := addressed
      rw [addressed.read?]
      obtain ⟨name, more, rfl⟩ := List.exists_cons_of_ne_nil addressed.ne_nil
      have missing : session.server? name = none := by
        cases found : session.server? name with
        | none => rfl
        | some place =>
          obtain ⟨there, listed⟩ := built.server?_eq_some.1 found
          exact absurd ⟨name, more, place.1, place.2, addressed, there, listed⟩ unnamed
      cases more with
      | nil => simp only [CommandLine.ofWords?, missing]
      | cons command arguments => simp only [CommandLine.ofWords?, missing]
    · rw [CommandLine.read?_eq_none fun spelled found => addressed ⟨spelled, found⟩]

theorem help_offered (server : Server) : Command.help ∈ server.commands :=
  List.mem_filter.2 ⟨Command.mem_all .help, rfl⟩

theorem Names.route_alone {name : String} {position : Nat} {server : Server}
    (names : session.Names body name [] position server) (built : Built session) :
    session.route body = .invocation ⟨position, server, .help, []⟩ := by
  have found := built.server? names.there names.listed
  have known : server.command? Command.help.name = some .help :=
    Command.ofAlias?_name (help_offered server)
  unfold route
  rw [names.addressed.read?]
  simp only [CommandLine.ofWords?, found, Option.getD_none, known]

theorem Names.route_known {name spoken : String} {arguments : List String} {position : Nat}
    {server : Server} (names : session.Names body name (spoken :: arguments) position server)
    (built : Built session) {command : Command} (offered : command ∈ server.commands)
    (called : spoken ∈ command.aliases) :
    session.route body = .invocation ⟨position, server, command, arguments⟩ := by
  have found := built.server? names.there names.listed
  have known : server.command? spoken = some command := Command.ofAlias?_of_mem offered called
  unfold route
  rw [names.addressed.read?]
  simp only [CommandLine.ofWords?, found, Option.getD_some, known]

theorem Names.route_unknown {name spoken : String} {arguments : List String} {position : Nat}
    {server : Server} (names : session.Names body name (spoken :: arguments) position server)
    (built : Built session)
    (unknown : ∀ command ∈ server.commands, spoken ∉ command.aliases) :
    session.route body = .unknownCommand (session.unknownCommandText server name spoken) := by
  have found := built.server? names.there names.listed
  have missing : server.command? spoken = none := Command.ofAlias?_eq_none unknown
  unfold route
  rw [names.addressed.read?]
  simp only [CommandLine.ofWords?, found, Option.getD_some, missing]

/-- A command line written for a server of a session leads to the command. -/
theorem route_write (solid : Text.isBlank session.mark = false) {name : String}
    (word : Text.IsWord name) {position : Nat} {server : Server}
    (found : session.server? name = some (position, server)) {command : Command}
    (offered : command ∈ server.commands) (arguments : List String) :
    session.route (CommandLine.write session.mark name command.name arguments) =
      .invocation ⟨position, server, command, arguments.flatMap Text.words⟩ := by
  have named : server.command? command.name = some command := Command.ofAlias?_name offered
  unfold route
  rw [CommandLine.read?_write solid word command.isWord_name]
  simp only [found, Option.getD_some, named]

theorem Built.route_write (built : session.Built)
    (routed : session.route body = .invocation invocation)
    (word : Text.IsWord invocation.server.primaryAlias) {command : Command}
    (offered : command ∈ invocation.server.commands) (arguments : List String) :
    session.route (CommandLine.write session.mark invocation.server.primaryAlias command.name
        arguments) =
      .invocation ⟨invocation.position, invocation.server, command,
        arguments.flatMap Text.words⟩ := by
  have addressed : session.route body ≠ .ignored := by
    rw [routed]
    intro same
    cases same
  have solid := mark_solid_of_route addressed
  have found := (invocation_of_route routed).1
  have listed : invocation.server.primaryAlias ∈ invocation.server.aliases := List.mem_cons_self
  exact Session.route_write solid word (built.server? found listed) offered arguments

end RhythmBot.Session
