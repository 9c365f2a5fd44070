import RhythmBot.Proofs.Session.ChatBoard
import RhythmBot.Proofs.Session.Conversation
import RhythmBot.Proofs.Session.Members
/-!
What linking an account leads to. Main statement: right after a link that is acknowledged, the
commands that the sender types without arguments are about the player linked, in the mode in which the
link looked the player up, and the leaderboard of a chat lists the record fetched for the link.
-/

namespace RhythmBot

namespace Http

theorem Answers.mode_of_statistics? {mode : Mode} {json : Json} {record : Record}
    (read : statistics? mode json = some record) : record.mode = mode := by
  unfold statistics? at read
  simp only [Option.bind_eq_bind, Option.bind_eq_some_iff] at read
  obtain ⟨fields, _, read⟩ := read
  split at read
  · simp only [Option.bind_eq_some_iff, Option.some.injEq] at read
    obtain ⟨_, _, _, _, _, _, _, _, rfl⟩ := read
    rfl
  · cases read

theorem Answers.mode_of_record? {mode : Mode} {json : Json} {record : Record}
    (read : record? mode json = some record) : record.mode = mode := by
  unfold record? at read
  simp only [Option.bind_eq_bind, Option.bind_eq_some_iff] at read
  obtain ⟨fields, _, read⟩ := read
  split at read
  · rename_i _ _ _ statistics _
    simp only [Option.bind_eq_some_iff, Option.some.injEq] at read
    obtain ⟨_, _, _, _, _, _, bare, given, rfl⟩ := read
    have same : bare.mode = mode := by
      cases statistics with
      | given json => exact mode_of_statistics? given
      | leftOut | cutOff => cases given
    exact same
  · cases read

/-- A server on the web gives the record of a player in the mode that it is asked for. -/
theorem Service.mode_of_user {service : Service} {network : Network} {query : PlayerQuery}
    {mode : Mode} {record : Record}
    (answered : (service.remote network).user query mode = .ok record) : record.mode = mode := by
  have called : service.call network (Answers.record? mode) (.user query mode) = .ok record :=
    answered
  unfold Service.call at called
  split at called
  · cases called
  · split at called
    · cases called
    · split at called
      · rename_i read
        cases called
        obtain ⟨_, _, decoded⟩ := Option.bind_eq_some_iff.1 read
        exact Answers.mode_of_record? decoded
      · cases called

end Http

theorem Answer.Ending.filed {context : Context} {before after : Books} {command : Command}
    {outcome : Outcome Reply} (uncalled : before.calls = [])
    (ending : Ending context before command outcome after) (filed : before.players.data.Filed) :
    after.players.data.Filed := by
  have records := (ending.written uncalled).records
  split at records
  · exact filed.of_records records
  · exact (filed.file _).of_records records

namespace Session

variable {session : Session} {world : World} {state : State} {message : Message}
  {invocation : Invocation} {record : Record}

/-- The account that linking a sender to a player makes: its default mode is the one typed, or else
the one that the sender had. -/
def linkedAccount (players : Store.Players) (sender : String) (tokens : List String)
    (record : Record) : Account :=
  ⟨record.playerId, record.nickname,
    (Arguments.ofTokens tokens).mode <|> (players.account? sender).bind Account.mode⟩

/-- A link that keeps the record that it fetched is acknowledged, and saved. -/
theorem handle_kept (routed : session.route message.body = .invocation invocation)
    (about : invocation.command = .set)
    (kept : session.keptAt? invocation.position world state message = some record) :
    let players := state.players invocation.position
    let turn := session.handle world state message
    turn.reply = some (.ofText ("[" ++ invocation.server.name ++ "] " ++
        session.catalog.text "set_done"
          [("nickname", record.nickname), ("id", record.playerId)])) ∧
      Answer.fetched? (world.remote invocation.position) turn.calls = some record ∧
      (turn.state.players invocation.position).data =
        (players.data.link message.origin.sender
          (linkedAccount players message.origin.sender invocation.tokens record)).file record := by
  obtain ⟨position, server, command, tokens⟩ := invocation
  cases about
  intro players turn
  let context := session.context world players message.origin ⟨position, server, .set, tokens⟩
    (.ofTokens tokens) none
  have prepared : session.contextFor world state message.origin
      ⟨position, server, .set, tokens⟩ = .ok context := rfl
  obtain ⟨outcome, after, ran, ending, turned⟩ := handle_ends routed prepared
  have written := ending.written rfl
  rw [State.books_players, State.seen_players] at written
  have keeps : Answer.kept? context.remote context.origin.sender players after.calls .set outcome =
      some record := by
    unfold keptAt? at kept
    simp only [routed, if_true, prepared, ran] at kept
    exact kept
  obtain ⟨rfl, fetched, saved⟩ := written.linked_of_kept? keeps
  simp only [turn, turned]
  refine ⟨rfl, fetched, ?_⟩
  rw [State.taking_players, if_pos rfl]
  exact saved

/-- A link looks the player up in the default mode of the account that it makes. -/
theorem handle_looked (routed : session.route message.body = .invocation invocation)
    (about : invocation.command = .set)
    (fetched : Answer.fetched? (world.remote invocation.position)
      (session.handle world state message).calls = some record) :
    let mode := (linkedAccount (state.players invocation.position) message.origin.sender
      invocation.tokens record).mode.getD .standard
    ∃ query, (session.handle world state message).calls = [.user query mode] ∧
      (world.remote invocation.position).user query mode = .ok record := by
  obtain ⟨position, server, command, tokens⟩ := invocation
  cases about
  intro mode
  have same : (session.context world (state.players position) message.origin
      ⟨position, server, .set, tokens⟩ (.ofTokens tokens) none).mode = mode :=
    session.context_mode ..
  rw [← same]
  have conversation := handle_converses world state routed rfl
  rcases conversation.lookups (by simp) with uncalled | ⟨query, asked⟩
  · rw [uncalled] at fetched
    cases fetched
  · rw [asked] at fetched
    exact ⟨query, asked, Answer.answered_of_fetched? fetched⟩

/-- A command without arguments that is no reply is about the account of its sender. -/
theorem player_untyped {players : Store.Players} {origin : Origin} {account : Account}
    (position : Nat) (server : Server) {command : Command} (needed : command.needsPlayer = true)
    (direct : origin.replyTo = none) (known : players.account? origin.sender = some account) :
    player ⟨position, server, command, []⟩ players origin (.parse command.takesMods []) =
      .ok (some (.linked account)) := by
  have unnamed : Identity.explicit? server.capabilities (.parse command.takesMods []) = none := by
    cases command.takesMods <;> rfl
  unfold player
  rw [if_pos needed, Identity.resolve, unnamed, direct]
  simp only [Identity.linked, known]
  rfl

/-- It asks about the player of the account, in its default mode, without looking anyone up first. -/
theorem handle_asks_linked {position : Nat} {server : Server} {operation : Operation}
    {account : Account}
    (routed : session.route message.body = .invocation ⟨position, server, operation.command, []⟩)
    (direct : message.origin.replyTo = none)
    (known : (state.players position).account? message.origin.sender = some account) :
    (session.handle world state message).calls =
      [operation.call (account.mode.getD .standard)
        (account.query (server.capabilities.byId operation))] := by
  have needed : operation.command.needsPlayer = true := by cases operation <;> rfl
  have resolved := player_untyped position server needed direct known
  have conversation := handle_converses world state routed resolved
  obtain ⟨player, found, asks⟩ := conversation.plays operation rfl
  cases found
  rw [asks.linked, known]
  have untyped : (Arguments.parse operation.command.takesMods []).mode = none := by
    cases operation <;> rfl
  simp only [untyped, Option.bind_some, Reference.mode?]
  cases account.mode <;> rfl

/-- The reply of `chat` has a line with the values of a record, unless it has a page of lines for other
players who come before the one of the record. -/
def Lists (session : Session) (server : Server) (mode : Mode) (playerOf : String → Option String)
    (members : List String) (record : Record) (turn : Turn) : Prop :=
  let row : Entry :=
    ⟨record.playerId, record.nickname, record.rank, record.performance, record.accuracy⟩
  ∃ lines,
    turn.reply =
      some (.ofText ("[" ++ server.name ++ "] " ++
        (session.catalog.text "chat_header" [("mode", mode.name)] ++ "\n\n" ++
          "\n".intercalate lines))) ∧
    ((∃ place line, lines[place]? = some line ∧
        Report.WritesEntry session.catalog (place + 1) row line) ∨
      ∃ others, Report.Lines (Report.WritesEntry session.catalog) others lines ∧
        others.length = 15 ∧ (others.map Entry.playerId).Nodup ∧
        ∀ other ∈ others, other.playerId ≠ record.playerId ∧
          Leaderboard.Precedes playerOf members other row)

/-- The leaderboard of a chat without arguments lists the ranked record stored of the player of its
sender. -/
theorem handle_lists_linked {position : Nat} {server : Server} {account : Account} {room : String}
    (routed : session.route message.body = .invocation ⟨position, server, .chat, []⟩)
    (place : message.origin.room = some room) (filed : (state.players position).data.Filed)
    (known : (state.players position).account? message.origin.sender = some account)
    (stored : (state.players position).record? account.remoteId (account.mode.getD .standard) =
      some record)
    (ranked : 0 < record.rank) (positive : 0 < record.performance) :
    session.Lists server (account.mode.getD .standard)
      (fun member => ((state.players position).account? member).map Account.remoteId)
      ((state.seen message.origin).chats.membersOf room) record
      (session.handle world state message) := by
  let mode := account.mode.getD .standard
  let playerOf (member : String) : Option String :=
    ((state.players position).account? member).map Account.remoteId
  let recordOf (playerId : String) : Option Record :=
    (state.players position).record? playerId mode
  let members := (state.seen message.origin).chats.membersOf room
  have own : ∀ playerId record, recordOf playerId = some record → record.playerId = playerId :=
    fun playerId record found => filed playerId mode record found
  have shows : session.ShowsBoard server mode playerOf recordOf members
      (session.handle world state message) := by
    have untyped : ((Arguments.ofTokens []).mode
        <|> ((state.players position).account? message.origin.sender).bind Account.mode).getD
          .standard = mode := by
      rw [known]
      rfl
    rw [← untyped]
    exact handle_showsBoard routed rfl (.here rfl place) own fun playerId =>
      congrArg ((state.players position).record? playerId) untyped
  have row : Leaderboard.Ranks playerOf recordOf members
      ⟨record.playerId, record.nickname, record.rank, record.performance, record.accuracy⟩ := by
    refine ⟨message.origin.sender, state.sender_mem_membersOf_seen place, account.remoteId, record,
      ?_, stored, ranked, positive, isNaN_of_pos positive, rfl⟩
    exact congrArg (Option.map Account.remoteId) known
  obtain ⟨shown, all, lines, _, board, written, replied⟩ := shows.shown ⟨_, row⟩
  refine ⟨lines, replied, ?_⟩
  rcases board.shown_or_preceded ((board.complete _).2 row) with listed | ⟨long, once, before⟩
  · obtain ⟨place, there⟩ := List.mem_iff_getElem?.1 listed
    obtain ⟨line, shown, values⟩ := written.2 place _ there
    exact .inl ⟨place, line, shown, values⟩
  · exact .inr ⟨shown, written, long, once, before⟩

/-- What a turn leads to that links a sender to the player of a record, by the account that it
makes. -/
structure Linked (session : Session) (invocation : Invocation) (remote : Remote) (sender : String)
    (account : Account) (record : Record) (turn : Turn) : Prop where
  /-- The link is acknowledged. -/
  reply : turn.reply = some (.ofText ("[" ++ invocation.server.name ++ "] " ++
    session.catalog.text "set_done" [("nickname", record.nickname), ("id", record.playerId)]))
  /-- It looked the player up in the default mode that the sender has now. -/
  looked : ∃ query, turn.calls = [.user query (account.mode.getD .standard)] ∧
    remote.user query (account.mode.getD .standard) = .ok record
  /-- The sender has the account. -/
  saved : (turn.state.players invocation.position).account? sender = some account
  /-- A command about a player is about the one linked, whatever the world answers. -/
  asks : ∀ (world : World) (message : Message) (operation : Operation),
    session.route message.body =
      .invocation ⟨invocation.position, invocation.server, operation.command, []⟩ →
    message.origin.sender = sender → message.origin.replyTo = none →
    (session.handle world turn.state message).calls =
      [operation.call (account.mode.getD .standard)
        (if invocation.server.capabilities.byId operation then .id record.playerId
          else .name record.nickname)]
  /-- A ranked record in that mode is listed by the leaderboard of a chat, unless a page of other
  players comes before it. -/
  board : record.mode = account.mode.getD .standard → 0 < record.rank → 0 < record.performance →
    ∀ (world : World) (message : Message) (room : String),
      session.route message.body =
        .invocation ⟨invocation.position, invocation.server, .chat, []⟩ →
      message.origin.sender = sender → message.origin.room = some room →
      session.Lists invocation.server (account.mode.getD .standard)
        (fun member =>
          ((turn.state.players invocation.position).account? member).map Account.remoteId)
        ((turn.state.seen message.origin).chats.membersOf room) record
        (session.handle world turn.state message)
  /-- A server on the web gives the record in that mode. -/
  web : ∀ (service : Http.Service) (network : Http.Network), remote = service.remote network →
    record.mode = account.mode.getD .standard

theorem handle_linked (filed : ∀ position, (state.players position).data.Filed)
    (routed : session.route message.body = .invocation invocation)
    (about : invocation.command = .set)
    (kept : session.keptAt? invocation.position world state message = some record) :
    session.Linked invocation (world.remote invocation.position) message.origin.sender
      (linkedAccount (state.players invocation.position) message.origin.sender invocation.tokens
        record) record (session.handle world state message) := by
  obtain ⟨reply, fetched, data⟩ := handle_kept routed about kept
  have looked := handle_looked routed about fetched
  have saved : ((session.handle world state message).state.players
      invocation.position).account? message.origin.sender =
        some (linkedAccount (state.players invocation.position) message.origin.sender
          invocation.tokens record) := by
    unfold Store.Players.account?
    rw [data]
    exact (Table.find?_insert ..).trans (if_pos rfl)
  refine ⟨reply, looked, saved, ?_, ?_, ?_⟩
  · intro later asking operation askedRoute same direct
    exact handle_asks_linked askedRoute direct (same ▸ saved)
  · intro played ranked positive later asking room askedRoute same place
    have after := (session.handled world state message).keeps Answer.Ending.filed filed
      invocation.position
    have stored : ((session.handle world state message).state.players
        invocation.position).record? record.playerId record.mode = some record := by
      unfold Store.Players.record?
      rw [data, Store.PlayerData.find?_file, if_pos ⟨rfl, rfl⟩]
    rw [played] at stored
    exact handle_lists_linked askedRoute place after (same ▸ saved) stored ranked positive
  · intro service network web
    obtain ⟨query, _, answered⟩ := looked
    rw [web] at answered
    exact Http.Service.mode_of_user answered

/-- In every run from stores that file each record under its own player, such as empty ones, a link
is acknowledged if it keeps the record that it fetched. Right after it, its sender has an account for
the player of the record, the commands of the sender are about that player in the mode in which the
record was fetched, and the record is on the leaderboard of a chat. -/
theorem run_linked (session : Session) (start : State)
    (filed : ∀ position, (start.players position).data.Filed) (events : List Event)
    (world : World) (message : Message) {invocation : Invocation}
    (routed : session.route message.body = .invocation invocation)
    (about : invocation.command = .set) {record : Record}
    (kept : session.keptAt? invocation.position world (session.run start events) message =
      some record) :
    let state := session.run start events
    session.Linked invocation (world.remote invocation.position) message.origin.sender
      (linkedAccount (state.players invocation.position) message.origin.sender invocation.tokens
        record) record (session.handle world state message) := by
  intro state
  have after := session.run_keeps_data Store.PlayerData.Filed Answer.Ending.filed filed events
  exact handle_linked after routed about kept

/-- Ann, whose default mode is taiko, links herself to another player and asks for the best plays and
for the leaderboard of a chat. -/
theorem run_linked_again :
    let server : Server := .sample ["lookup_by_name", "top_by_name"] false rfl
    let session := single server
    let state := session.run ⟨fun _ => .inMemory, .inMemory⟩
      [.message (.lonely "8" "Eight") ⟨"!ex set taiko Eight", ⟨none, "ann", none⟩⟩]
    let turn := session.handle (.ranked "7" "Seven" 9) state ⟨"!ex set Seven", ⟨none, "ann", none⟩⟩
    let playerOf (member : String) :=
      ((turn.state.players 0).account? member).map Account.remoteId
    (turn.state.players 0).account? "ann" = some ⟨"7", "Seven", some .taiko⟩ ∧
      (session.handle (.lonely "7" "Seven") turn.state ⟨"!ex top", ⟨none, "ann", none⟩⟩).calls =
        [.top (.name "Seven") .taiko 5] ∧
      session.Lists server .taiko playerOf ["ann"] ⟨"7", "Seven", .taiko, 9, 100, 99, 10, none⟩
        (session.handle (.lonely "7" "Seven") turn.state ⟨"!ex chat", ⟨some "5", "ann", none⟩⟩) := by
  intro server session state turn playerOf
  have linked := run_linked session ⟨fun _ => .inMemory, .inMemory⟩
    (fun _ => Store.PlayerData.filed_empty)
    [.message (.lonely "8" "Eight") ⟨"!ex set taiko Eight", ⟨none, "ann", none⟩⟩]
    (.ranked "7" "Seven" 9) ⟨"!ex set Seven", ⟨none, "ann", none⟩⟩
    (show session.route "!ex set Seven" = .invocation ⟨0, server, .set, ["Seven"]⟩ from rfl)
    rfl rfl
  refine ⟨linked.saved, ?_, ?_⟩
  · exact linked.asks (.lonely "7" "Seven") ⟨"!ex top", ⟨none, "ann", none⟩⟩ .top rfl rfl rfl
  · exact linked.board rfl (by decide) (by decide) (.lonely "7" "Seven")
      ⟨"!ex chat", ⟨some "5", "ann", none⟩⟩ "5" rfl rfl rfl

end Session

end RhythmBot
