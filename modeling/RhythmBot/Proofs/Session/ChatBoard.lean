import RhythmBot.Proofs.Leaderboard
import RhythmBot.Proofs.Report
import RhythmBot.Proofs.Session.History
import RhythmBot.Proofs.Table
/-!
What the leaderboard of a chat shows. Main statement: in a session that starts without records, it is
the board of the players linked to the members of the room, with the last record kept of each.
-/

namespace RhythmBot

namespace Answer

open Leaderboard (Board)

/-- The records gathered for a board are those of the store, for every player asked about. -/
theorem entryValue?_recordsOf {players : Store.Players} {playerIds : List String} {mode : Mode}
    {playerId : String} (listed : playerId ∈ playerIds) :
    entryValue? playerId (recordsOf players playerIds mode) = players.record? playerId mode := by
  have keys : ((recordsOf players playerIds mode).map Prod.fst).Sublist
      (Leaderboard.distinctBy id playerIds) := by
    unfold recordsOf
    generalize Leaderboard.distinctBy id playerIds = ids
    induction ids with
    | nil => exact .slnil
    | cons first rest ih =>
      cases found : players.record? first mode with
      | none =>
        rw [List.filterMap_cons_none (by rw [found]; rfl)]
        exact ih.cons first
      | some record =>
        rw [List.filterMap_cons_some (by rw [found]; rfl)]
        exact ih.cons_cons first
  have distinct : ((recordsOf players playerIds mode).map Prod.fst).Nodup := by
    have ids := Leaderboard.distinct_distinctBy id playerIds
    rw [List.map_id] at ids
    exact ids.sublist keys
  apply Option.ext
  intro record
  rw [entryValue?_eq_some distinct]
  simp only [recordsOf, List.mem_filterMap, Option.map_eq_some_iff, Prod.mk.injEq,
    Leaderboard.mem_distinctBy_id]
  constructor
  · rintro ⟨_, _, _, found, rfl, rfl⟩
    exact found
  · intro found
    exact ⟨playerId, listed, record, found, rfl, rfl⟩

/-- The board of some members, from records that are each player's own. -/
theorem knownBoard_board {players : Store.Players} {mode : Mode} {members : List String}
    {playerOf : String → Option String} {recordOf : String → Option Record}
    (own : ∀ playerId record, recordOf playerId = some record → record.playerId = playerId)
    (stored : ∀ playerId, players.record? playerId mode = recordOf playerId) :
    ∃ all, Board playerOf recordOf members
      (knownBoard players (members.filterMap playerOf) mode) all := by
  apply Leaderboard.aggregate_board own
  intro playerId listed
  rw [entryValue?_recordsOf listed, stored playerId]

/-- The room that a message asks about: the number typed, else the room that it comes from. -/
inductive RoomAsked (origin : Origin) (arguments : Arguments) : String → Prop
  | typed {room : String} {more : List String} :
      arguments.nickname = room :: more →
      (Text.integer? room).isSome = true →
      RoomAsked origin arguments room
  | here {room : String} :
      arguments.nickname = [] →
      origin.room = some room →
      RoomAsked origin arguments room

theorem RoomAsked.chatRoom {context : Context} {room : String}
    (asked : RoomAsked context.origin context.arguments room) : chatRoom context = .ok room := by
  unfold Answer.chatRoom
  cases asked with
  | typed named numeric => simp only [named, numeric, if_true]
  | here unnamed place => simp only [unnamed, place]

/-- A board for a room is told without asking the server, or that it is empty. -/
theorem run_chat {context : Context} {books : Books} {room : String}
    (asked : RoomAsked context.origin context.arguments room) :
    chat.run context books =
      (.ok (.ofText
        (if knownBoard books.players (books.linkedPlayers room) context.mode = [] then
          context.text "chat_empty" []
        else
          Report.leaderboard context.catalog
            (context.text "chat_header" [("mode", context.mode.name)])
            (knownBoard books.players (books.linkedPlayers room) context.mode))), books) := by
  unfold chat
  simp only [run_bind, run_read, asked.chatRoom, run_memberPlayers, run_get, List.isEmpty_iff]
  split
  · rfl
  · rfl

end Answer

def World.ranked (playerId nickname : String) (rank : Nat) : World :=
  { World.lonely playerId nickname with
    remote position :=
      { (World.lonely playerId nickname).remote position with
        user _ mode := .ok ⟨playerId, nickname, mode, rank, 100, 99, 10, none⟩ } }

namespace Session

open Leaderboard (Board Ranks)
open Store.PlayerData (lastRecord? lastRecord?_own)

/-- What a turn of `chat` shows of the members of a room, by the player that each is linked to and
the record that counts for a player. -/
structure ShowsBoard (session : Session) (server : Server) (mode : Mode)
    (playerOf : String → Option String) (recordOf : String → Option Record)
    (members : List String) (turn : Turn) : Prop where
  /-- The server is not asked. -/
  quiet : turn.calls = []
  /-- Without a ranked record of a player, the board is said to be empty. -/
  empty : (¬ ∃ row, Ranks playerOf recordOf members row) →
    turn.reply =
      some (.ofText ("[" ++ server.name ++ "] " ++ session.catalog.text "chat_empty" []))
  /-- Else each row of the board has its line. -/
  shown : (∃ row, Ranks playerOf recordOf members row) →
    ∃ shown all lines, shown ≠ [] ∧ Board playerOf recordOf members shown all ∧
      Report.Lines (Report.WritesEntry session.catalog) shown lines ∧
      turn.reply =
        some (.ofText ("[" ++ server.name ++ "] " ++
          (session.catalog.text "chat_header" [("mode", mode.name)] ++ "\n\n" ++
            "\n".intercalate lines)))

variable {session : Session} {world : World} {state : State} {message : Message}
  {invocation : Invocation} {room : String}

theorem handle_showsBoard (routed : session.route message.body = .invocation invocation)
    (about : invocation.command = .chat)
    (asked : Answer.RoomAsked message.origin (.ofTokens invocation.tokens) room)
    {recordOf : String → Option Record}
    (own : ∀ playerId record, recordOf playerId = some record → record.playerId = playerId) :
    let players := state.players invocation.position
    let mode := ((Arguments.ofTokens invocation.tokens).mode
      <|> (players.account? message.origin.sender).bind Account.mode).getD .standard
    (∀ playerId, players.record? playerId mode = recordOf playerId) →
      session.ShowsBoard invocation.server mode
        (fun member => (players.account? member).map Account.remoteId) recordOf
        ((state.seen message.origin).chats.membersOf room) (session.handle world state message) := by
  obtain ⟨position, server, command, tokens⟩ := invocation
  cases about
  intro players mode stored
  let context := session.context world players message.origin ⟨position, server, .chat, tokens⟩
    (.ofTokens tokens) none
  let members := (state.seen message.origin).chats.membersOf room
  let playerOf (member : String) : Option String :=
    (players.account? member).map Account.remoteId
  have prepared : session.contextFor world state message.origin
      ⟨position, server, .chat, tokens⟩ = .ok context := rfl
  have same_mode : context.mode = mode := session.context_mode ..
  have linked : ((state.seen message.origin).books position).linkedPlayers room =
      members.filterMap playerOf := by
    unfold Books.linkedPlayers
    rw [State.books_players, State.seen_players]
    rfl
  obtain ⟨all, board⟩ : ∃ all, Board playerOf recordOf members
      (Answer.knownBoard players (members.filterMap playerOf) mode) all :=
    Answer.knownBoard_board own stored
  have asked_context : Answer.RoomAsked context.origin context.arguments room := asked
  obtain ⟨replied, calls⟩ := handle_run routed prepared (Answer.run_chat asked_context)
  rw [linked, same_mode, State.books_players, State.seen_players] at replied
  refine ⟨calls, ?_, ?_⟩
  · intro unranked
    rw [replied, if_pos (board.shown_eq_nil.2 unranked)]
    rfl
  · intro ranked
    have filled := fun nothing => board.shown_eq_nil.1 nothing ranked
    obtain ⟨lines, text, written⟩ := Report.leaderboard_lines context.catalog
      (context.text "chat_header" [("mode", mode.name)])
      (Answer.knownBoard players (members.filterMap playerOf) mode)
    refine ⟨_, all, lines, filled, board, written, ?_⟩
    rw [replied, if_neg filled, text]
    rfl

/-- In a session that starts without records, `chat` shows the members of a room with the last record
kept of each player, in the mode typed or else in the default mode of the sender. -/
theorem run_showsBoard (session : Session) (start : State)
    (empty : ∀ position, (start.players position).data = .empty) (events : List Event)
    (world : World) (message : Message) {invocation : Invocation}
    (routed : session.route message.body = .invocation invocation)
    (about : invocation.command = .chat) {room : String}
    (asked : Answer.RoomAsked message.origin (.ofTokens invocation.tokens) room) :
    let state := session.run start events
    let players := state.players invocation.position
    let mode := ((Arguments.ofTokens invocation.tokens).mode
      <|> (players.account? message.origin.sender).bind Account.mode).getD .standard
    session.ShowsBoard invocation.server mode
      (fun member => (players.account? member).map Account.remoteId)
      (fun playerId => lastRecord? (session.history invocation.position start events) playerId mode)
      ((state.seen message.origin).chats.membersOf room) (session.handle world state message) := by
  intro state players mode
  apply handle_showsBoard routed about asked
  · intro playerId record last
    exact (lastRecord?_own last).1
  · intro playerId
    exact session.run_record? start events invocation.position (empty _) playerId mode

/-- Two of three members are linked to players with a rank. -/
theorem run_showsBoard_linked :
    let server : Server := .sample ["lookup_by_name", "top_by_name"] false rfl
    let session := single server
    let link (playerId nickname sender : String) (rank : Nat) : Event :=
      .message (.ranked playerId nickname rank) ⟨"!ex set " ++ nickname, ⟨some "5", sender, none⟩⟩
    let start : State := ⟨fun _ => .inMemory, .inMemory⟩
    let events := [link "7" "Seven" "ann" 9, link "8" "Eight" "bob" 2]
    let state := session.run start events
    let playerOf (member : String) := ((state.players 0).account? member).map Account.remoteId
    let recordOf (playerId : String) :=
      lastRecord? (session.history 0 start events) playerId .standard
    (∃ row, Ranks playerOf recordOf ["ann", "bob", "cat"] row) ∧
      session.ShowsBoard server .standard playerOf recordOf ["ann", "bob", "cat"]
        (session.handle (.lonely "7" "Seven") state ⟨"!ex chat", ⟨some "5", "cat", none⟩⟩) := by
  intro server session link start events state playerOf recordOf
  have routed : session.route "!ex chat" = .invocation ⟨0, server, .chat, []⟩ := rfl
  have row : Ranks playerOf recordOf ["ann", "bob", "cat"]
      (.ofRecord ⟨"8", "Eight", .standard, 2, 100, 99, 10, none⟩) := by
    refine ⟨"bob", by decide, "8", _, rfl, rfl, by decide, by decide, by decide, rfl⟩
  have board := run_showsBoard session start (fun _ => rfl) events (.lonely "7" "Seven")
    ⟨"!ex chat", ⟨some "5", "cat", none⟩⟩ routed rfl (.here rfl rfl)
  exact ⟨⟨_, row⟩, board⟩

end Session

end RhythmBot
