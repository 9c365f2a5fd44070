import RhythmBot.Proofs.Leaderboard
import RhythmBot.Proofs.Mods
import RhythmBot.Proofs.Report
import RhythmBot.Proofs.Session.Members
import RhythmBot.Proofs.Session.Owners
import RhythmBot.Proofs.Store.Reload
/-!
The leaderboard of a beatmap in a room. Main statement: in a session that starts without accounts, the
server is asked about the players linked to the members of the room, each once, exactly if there are
any and a beatmap is known, and the rows shown are a page of its answer.
-/

namespace RhythmBot

namespace Mods

/-- Modifiers as a server is asked for them: those of every token that names some, together, and none
at all rather than an empty set. -/
structure Named (tokens : List String) (mods : Option Mods) : Prop where
  bits : ∀ bit, (mods.getD none).bits.getLsbD bit = true ↔
    ∃ token ∈ tokens, ∃ named, ofToken? token = some named ∧ named.bits.getLsbD bit = true
  filled : mods ≠ some none

theorem isModifier_of_ofToken? {token : String} {mods : Mods} (named : ofToken? token = some mods) :
    Arguments.isModifier token = true := by
  unfold ofToken? at named
  unfold Arguments.isModifier
  split at named
  · rename_i letters spelled
    rw [spelled]
    cases letters with
    | nil => cases named
    | cons letter more => rfl
  · cases named

end Mods

namespace Arguments

/-- The modifiers of a command that takes them are those that its tokens behind the mode name. -/
theorem named_mods? (tokens : List String) :
    Mods.Named (splitMode tokens).2 (ofTokensWithMods tokens).mods? := by
  have together : ((ofTokensWithMods tokens).mods?).getD .none =
      Mods.ofTokens ((splitMode tokens).2.filter isModifier) := by
    change (if (Mods.ofTokens ((splitMode tokens).2.filter isModifier)).isNone then none
      else some (Mods.ofTokens ((splitMode tokens).2.filter isModifier))).getD .none = _
    split
    · rename_i empty
      have bits := beq_iff_eq.1 empty
      generalize Mods.ofTokens ((splitMode tokens).2.filter isModifier) = mods at bits
      cases mods
      cases bits
      rfl
    · rfl
  refine ⟨?_, ?_⟩
  · intro bit
    rw [together, Mods.ofTokens, Mods.getLsbD_foldl_union]
    simp only [List.mem_filterMap, List.mem_filter]
    constructor
    · rintro (none | ⟨mods, ⟨token, ⟨listed, _⟩, named⟩, held⟩)
      · simp [Mods.none] at none
      · exact ⟨token, listed, mods, named, held⟩
    · rintro ⟨token, listed, mods, named, held⟩
      exact .inr ⟨mods, ⟨token, ⟨listed, Mods.isModifier_of_ofToken? named⟩, named⟩, held⟩
  · intro filled
    unfold mods? at filled
    simp only at filled
    split at filled
    · cases filled
    · rename_i some_mods
      rw [Option.some.inj filled] at some_mods
      exact some_mods rfl

end Arguments

namespace Answer

variable {context : Context} {books : Books} {room beatmapId : String}

theorem run_leaderboard_mapless (place : context.origin.room = some room)
    (unknown : beatmapOf context books room = none) :
    leaderboard.run context books = (.ok (.ofText (context.text "lb_no_map" [])), books) := by
  unfold leaderboard
  simp only [run_bind, run_read, place, run_boardBeatmap, unknown, run_pure]

theorem run_leaderboard_deserted (place : context.origin.room = some room)
    (known : beatmapOf context books room = some beatmapId)
    (deserted : books.linkedPlayers room = []) :
    leaderboard.run context books =
      (.ok (.ofText (context.text "lb_empty" [("beatmap", beatmapId)])), books) := by
  unfold leaderboard
  simp only [run_bind, run_read, place, run_boardBeatmap, known, run_memberPlayers, deserted]
  rfl

/-- With a beatmap and players to ask about, the server is asked once, and a page of its answer is
told. -/
theorem run_leaderboard_asked (place : context.origin.room = some room)
    (known : beatmapOf context books room = some beatmapId)
    (populated : books.linkedPlayers room ≠ []) :
    leaderboard.run context books =
      ((context.remote.leaderboard beatmapId (books.linkedPlayers room) context.mode
          context.arguments.mods?).map fun answered =>
        .ofText
          (if Leaderboard.rank answered = [] then
            context.text "lb_empty" [("beatmap", beatmapId)]
          else
            Report.leaderboard context.catalog
              (context.text "lb_header"
                [("beatmap", beatmapId), ("mode", context.mode.name),
                  ("mods", (context.arguments.mods?.getD Mods.none).text)])
              (Leaderboard.rank answered)),
        books.noting (.leaderboard beatmapId (books.linkedPlayers room) context.mode
          context.arguments.mods?)) := by
  unfold leaderboard
  simp only [run_bind, run_read, place, run_boardBeatmap, known, run_memberPlayers,
    run_beatmapBoard context books beatmapId populated]
  cases context.remote.leaderboard beatmapId (books.linkedPlayers room) context.mode
    context.arguments.mods? with
  | error failure => rfl
  | ok answered =>
    simp only [Except.map, List.isEmpty_iff]
    split
    · rfl
    · rfl

end Answer

namespace Session

open Leaderboard (Page)

/-- What a turn of `lb` asks for and shows, by the beatmap that it is about, the modifiers, the members
of the room and the player that each is linked to. -/
structure AsksBoard (session : Session) (server : Server) (remote : Remote) (mode : Mode)
    (beatmap : Option String) (mods : Option Mods) (players : List String) (turn : Turn) :
    Prop where
  /-- Without a beatmap, the server is not asked. -/
  mapless : beatmap = none →
    turn.calls = [] ∧
      turn.reply =
        some (.ofText ("[" ++ server.name ++ "] " ++ session.catalog.text "lb_no_map" []))
  /-- Nor is it without players. -/
  deserted : ∀ beatmapId, beatmap = some beatmapId → players = [] →
    turn.calls = [] ∧
      turn.reply = some (.ofText ("[" ++ server.name ++ "] " ++
        session.catalog.text "lb_empty" [("beatmap", beatmapId)]))
  /-- Else it is asked once for the leaderboard of the beatmap among the players. -/
  asked : ∀ beatmapId, beatmap = some beatmapId → players ≠ [] →
    turn.calls = [.leaderboard beatmapId players mode mods]
  /-- Of its answer a page is shown, each row with its line, or it is said that there is none. -/
  shown : ∀ beatmapId answered, beatmap = some beatmapId → players ≠ [] →
    remote.leaderboard beatmapId players mode mods = .ok answered →
    ∃ shown all lines, Page answered shown all ∧
      Report.Lines (Report.WritesEntry session.catalog) shown lines ∧
      turn.reply =
        some (.ofText ("[" ++ server.name ++ "] " ++
          if shown = [] then session.catalog.text "lb_empty" [("beatmap", beatmapId)]
          else session.catalog.text "lb_header"
              [("beatmap", beatmapId), ("mode", mode.name), ("mods", (mods.getD .none).text)] ++
            "\n\n" ++ "\n".intercalate lines))
  /-- A failure of the server is explained. -/
  failed : ∀ beatmapId failure, beatmap = some beatmapId → players ≠ [] →
    remote.leaderboard beatmapId players mode mods = .error failure →
    turn.reply = some (.ofText ("[" ++ server.name ++ "] " ++ session.failureText server failure))

variable {session : Session} {world : World} {state : State} {message : Message}
  {invocation : Invocation} {room : String}

/-- What a state leads to, whatever the accounts and the members are. -/
theorem handle_asksBoard (routed : session.route message.body = .invocation invocation)
    (about : invocation.command = .leaderboard) (place : message.origin.room = some room) :
    let players := state.players invocation.position
    let mode := ((Arguments.splitMode invocation.tokens).1
      <|> (players.account? message.origin.sender).bind Account.mode).getD .standard
    session.AsksBoard invocation.server (world.remote invocation.position) mode
      (((Arguments.splitMode invocation.tokens).2.find? fun token => !Arguments.isModifier token)
        <|> state.chats.lastBeatmap? room)
      (Arguments.ofTokensWithMods invocation.tokens).mods?
      (((state.seen message.origin).chats.membersOf room).filterMap fun member =>
        (players.account? member).map Account.remoteId)
      (session.handle world state message) := by
  obtain ⟨position, server, command, tokens⟩ := invocation
  cases about
  intro players mode
  let context := session.context world players message.origin
    ⟨position, server, .leaderboard, tokens⟩ (.ofTokensWithMods tokens) none
  let books := (state.seen message.origin).books position
  have prepared : session.contextFor world state message.origin
      ⟨position, server, .leaderboard, tokens⟩ = .ok context := rfl
  have same_mode : context.mode = mode := session.context_mode ..
  have beatmap : Answer.beatmapOf context books room =
      (((Arguments.splitMode tokens).2.find? fun token => !Arguments.isModifier token)
        <|> state.chats.lastBeatmap? room) := by
    rw [← List.head?_filter]
    have rest : context.arguments.nickname =
        (Arguments.splitMode tokens).2.filter fun token => !Arguments.isModifier token := rfl
    unfold Answer.beatmapOf
    rw [rest]
    cases (Arguments.splitMode tokens).2.filter fun token => !Arguments.isModifier token with
    | nil => exact State.lastBeatmap?_seen ..
    | cons beatmapId more => rfl
  have linked : books.linkedPlayers room =
      ((state.seen message.origin).chats.membersOf room).filterMap fun member =>
        (players.account? member).map Account.remoteId := by
    unfold Books.linkedPlayers
    rw [State.books_players, State.seen_players]
    rfl
  rw [← beatmap, ← linked, ← same_mode]
  have origin : context.origin.room = some room := place
  refine ⟨?_, ?_, ?_, ?_, ?_⟩
  · intro unknown
    have ran := handle_run routed prepared (Answer.run_leaderboard_mapless origin unknown)
    exact ⟨ran.2, ran.1⟩
  · intro beatmapId known deserted
    have ran := handle_run routed prepared
      (Answer.run_leaderboard_deserted origin known deserted)
    exact ⟨ran.2, ran.1⟩
  · intro beatmapId known populated
    exact (handle_run routed prepared
      (Answer.run_leaderboard_asked origin known populated)).2
  · intro beatmapId answered known populated found
    obtain ⟨all, page⟩ := Leaderboard.rank_page answered
    have ran := Answer.run_leaderboard_asked origin known populated
    have replied := (handle_run routed prepared ran).1
    have answer : context.remote.leaderboard beatmapId (books.linkedPlayers room) context.mode
      context.arguments.mods? = .ok answered := found
    obtain ⟨lines, text, written⟩ := Report.leaderboard_lines context.catalog
      (context.text "lb_header" [("beatmap", beatmapId), ("mode", context.mode.name),
        ("mods", (context.arguments.mods?.getD Mods.none).text)]) (Leaderboard.rank answered)
    rw [answer, Except.map, text] at replied
    exact ⟨_, all, lines, page, written, replied⟩
  · intro beatmapId failure known populated lost
    have ran := Answer.run_leaderboard_asked origin known populated
    have replied := (handle_run routed prepared ran).1
    have answer : context.remote.leaderboard beatmapId (books.linkedPlayers room) context.mode
      context.arguments.mods? = .error failure := lost
    rw [answer] at replied
    exact replied

/-- Members listed once each are linked to different players, where players have one owner each. -/
theorem nodup_linked {players : Store.Players} (separate : Separate players.data.accounts)
    {members : List String} (distinct : members.Nodup) :
    (members.filterMap fun member => (players.account? member).map Account.remoteId).Nodup := by
  apply List.Pairwise.filterMap _ _ distinct
  intro first second different firstId firstLinked secondId secondLinked same
  obtain ⟨firstAccount, firstFound, rfl⟩ := Option.map_eq_some_iff.1 firstLinked
  obtain ⟨secondAccount, secondFound, rfl⟩ := Option.map_eq_some_iff.1 secondLinked
  exact different (separate first second firstAccount secondAccount firstFound secondFound same)

/-- In a session that starts without accounts, `lb` asks in a room about the first token behind the
mode that stands for no modifiers, or else the last beatmap of the room, and about the players linked
to the members in their order, with the modifiers named. No player is asked about twice, unless the list
of members that the session starts with has one twice. -/
theorem run_asksBoard (session : Session) (start : State)
    (empty : ∀ position, (start.players position).data = .empty) (events : List Event)
    (world : World) (message : Message) {invocation : Invocation}
    (routed : session.route message.body = .invocation invocation)
    (about : invocation.command = .leaderboard) {room : String}
    (place : message.origin.room = some room) :
    let state := session.run start events
    let players := state.players invocation.position
    let mode := ((Arguments.splitMode invocation.tokens).1
      <|> (players.account? message.origin.sender).bind Account.mode).getD .standard
    let tokens := (Arguments.splitMode invocation.tokens).2
    let beatmap := (tokens.find? fun token => !Arguments.isModifier token)
      <|> state.chats.lastBeatmap? room
    let linked := ((state.seen message.origin).chats.membersOf room).filterMap fun member =>
      (players.account? member).map Account.remoteId
    (∃ mods, Mods.Named tokens mods ∧
      session.AsksBoard invocation.server (world.remote invocation.position) mode beatmap mods linked
        (session.handle world state message)) ∧
      ((start.chats.membersOf room).Nodup → linked.Nodup) := by
  intro state players mode tokens beatmap linked
  refine ⟨⟨_, Arguments.named_mods? invocation.tokens, handle_asksBoard routed about place⟩, ?_⟩
  intro distinct
  have separate : ∀ position, Separate (start.players position).data.accounts := by
    intro position sender other account otherAccount found
    rw [empty position] at found
    cases found
  apply nodup_linked (session.run_separate separate events invocation.position)
  rw [State.membersOf_seen, run_membersOf]
  exact nodup_append_newcomers (nodup_append_newcomers distinct _) _

/-- Bob and Ann are linked, in this order, when Cat asks with two tokens of modifiers. -/
theorem run_asksBoard_linked :
    let server : Server := .sample ["lookup_by_name", "leaderboard"] false rfl
    let session := single server
    let link (playerId nickname sender : String) : Event :=
      .message (.lonely playerId nickname) ⟨"!ex set " ++ nickname, ⟨some "5", sender, none⟩⟩
    let turn := session.handle (.lonely "7" "Seven")
      (session.run ⟨fun _ => .inMemory, .inMemory⟩
        [link "8" "Eight" "bob", link "7" "Seven" "ann"])
      ⟨"!ex lb taiko +hd 22 +dt", ⟨some "5", "cat", none⟩⟩
    ["8", "7"].Nodup ∧
      ∃ mods, Mods.Named ["+hd", "22", "+dt"] mods ∧
        turn.calls = [.leaderboard "22" ["8", "7"] .taiko mods] := by
  intro server session link turn
  have routed : session.route "!ex lb taiko +hd 22 +dt" =
      .invocation ⟨0, server, .leaderboard, ["taiko", "+hd", "22", "+dt"]⟩ := rfl
  obtain ⟨⟨mods, named, asks⟩, distinct⟩ := run_asksBoard session ⟨fun _ => .inMemory, .inMemory⟩
    (fun _ => rfl) [link "8" "Eight" "bob", link "7" "Seven" "ann"] (.lonely "7" "Seven")
    ⟨"!ex lb taiko +hd 22 +dt", ⟨some "5", "cat", none⟩⟩ routed rfl rfl
  exact ⟨distinct List.nodup_nil, mods, named, asks.asked "22" rfl (by decide)⟩

/-- Where the file of the chats lists Ann twice, her player is asked about twice. -/
theorem run_asksBoard_repeated :
    let server : Server := .sample ["lookup_by_name", "leaderboard"] false rfl
    let session := single server
    let listed : Store.ChatData := ⟨Table.empty.insert "5" ["ann", "ann"], .empty⟩
    let start : State := ⟨fun _ => .inMemory, .onFile ⟨some listed.snapshot, none⟩⟩
    let state := session.run start
      [.message (.lonely "7" "Seven") ⟨"!ex set Seven", ⟨some "5", "ann", none⟩⟩]
    let turn := session.handle (.lonely "7" "Seven") state ⟨"!ex lb 22", ⟨some "5", "ann", none⟩⟩
    (∀ position, (start.players position).data = .empty) ∧
      turn.calls = [.leaderboard "22" ["7", "7"] .standard none] ∧ ¬ ["7", "7"].Nodup := by
  intro server session listed start state turn
  have loaded : start.chats = ⟨listed, some ⟨some listed.snapshot, none⟩⟩ := by
    simp only [start, Store.Chats.onFile, Store.File.load, Option.bind_some,
      Store.ChatData.ofSnapshot?_snapshot, Option.getD_some]
  have same : start = ⟨fun _ => .inMemory, ⟨listed, some ⟨some listed.snapshot, none⟩⟩⟩ :=
    congrArg (State.mk _) loaded
  have routed : session.route "!ex lb 22" = .invocation ⟨0, server, .leaderboard, ["22"]⟩ := rfl
  have asks := @handle_asksBoard session (.lonely "7" "Seven") state
    ⟨"!ex lb 22", ⟨some "5", "ann", none⟩⟩ _ _ routed rfl rfl
  refine ⟨fun _ => rfl, ?_, by decide⟩
  simp only [turn, state] at asks ⊢
  rw [same] at asks ⊢
  exact asks.asked "22" rfl (by decide)

end Session

end RhythmBot
