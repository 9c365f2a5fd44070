import RhythmBot.Proofs.Answer.Run
import RhythmBot.Proofs.Store.Commit
/-!
Every way in which a command can end. The relations of this module list the exits of each answer
with what it asked, what came back and what it changed; main statement: each run of a command is one
of them.
-/

namespace RhythmBot.Answer

/-- How finding the way to ask about a player ends: in the form at hand, in the other form after a
look-up, with the failure of that look-up, or without a way. -/
inductive Inquiry (context : Context) (operation : Operation) (before : Books) :
    Reference → Outcome PlayerQuery → Books → Prop
  | linkedId {account : Account} :
      context.server.capabilities.byId operation = true →
      Inquiry context operation before (.linked account) (.ok (.id account.remoteId)) before
  | linkedName {account : Account} :
      context.server.capabilities.byId operation = false →
      context.server.capabilities.byName operation = true →
      Inquiry context operation before (.linked account) (.ok (.name account.nickname)) before
  | name {text : String} :
      context.server.capabilities.byName operation = true →
      Inquiry context operation before (.nickname text) (.ok (.name text)) before
  | nameFound {text : String} {record : Record} :
      context.server.capabilities.byName operation = false →
      context.server.capabilities.byId operation = true →
      context.server.capabilities.lookupByName = true →
      context.remote.user (.name text) context.mode = .ok record →
      Inquiry context operation before (.nickname text) (.ok (.id record.playerId))
        (before.noting (.user (.name text) context.mode))
  | nameLost {text : String} {failure : Failure} :
      context.server.capabilities.byName operation = false →
      context.server.capabilities.byId operation = true →
      context.server.capabilities.lookupByName = true →
      context.remote.user (.name text) context.mode = .error failure →
      Inquiry context operation before (.nickname text) (.error failure)
        (before.noting (.user (.name text) context.mode))
  | nameRefused {text : String} :
      context.server.capabilities.byName operation = false →
      (context.server.capabilities.byId operation &&
        context.server.capabilities.lookupByName) = false →
      Inquiry context operation before (.nickname text)
        (.error (.remote (.unsupported "player query"))) before
  | id {text : String} :
      context.server.capabilities.byId operation = true →
      Inquiry context operation before (.id text) (.ok (.id text)) before
  | idFound {text : String} {record : Record} :
      context.server.capabilities.byId operation = false →
      context.server.capabilities.byName operation = true →
      context.server.capabilities.lookupById = true →
      context.remote.user (.id text) context.mode = .ok record →
      Inquiry context operation before (.id text) (.ok (.name record.nickname))
        (before.noting (.user (.id text) context.mode))
  | idLost {text : String} {failure : Failure} :
      context.server.capabilities.byId operation = false →
      context.server.capabilities.byName operation = true →
      context.server.capabilities.lookupById = true →
      context.remote.user (.id text) context.mode = .error failure →
      Inquiry context operation before (.id text) (.error failure)
        (before.noting (.user (.id text) context.mode))
  | idRefused {text : String} :
      context.server.capabilities.byId operation = false →
      (context.server.capabilities.byName operation &&
        context.server.capabilities.lookupById) = false →
      Inquiry context operation before (.id text)
        (.error (.remote (.unsupported "player query"))) before
  | linkedRefused {account : Account} :
      context.server.capabilities.byId operation = false →
      context.server.capabilities.byName operation = false →
      Inquiry context operation before (.linked account)
        (.error (.remote (.unsupported "player query"))) before

inductive Concerns (context : Context) : Command → Operation → Reference → Prop
  | user {player : Reference} :
      context.reference = some player → Concerns context .user .lookup player
  | top {player : Reference} :
      context.reference = some player → Concerns context .top .top player
  | recent {player : Reference} :
      context.reference = some player → Concerns context .recent .recent player
  | set {player : Reference} :
      Identity.explicit? context.server.capabilities context.arguments = some (.ok player) →
      Concerns context .set .lookup player

theorem inquiry (context : Context) (books : Books) (player : Reference) (operation : Operation) :
    Inquiry context operation books player ((playerQuery player operation).run context books).1
      ((playerQuery player operation).run context books).2 := by
  unfold playerQuery
  simp only [run_bind, run_read]
  cases player with
  | linked account =>
    cases byId : context.server.capabilities.byId operation with
    | true => exact .linkedId byId
    | false =>
      cases byName : context.server.capabilities.byName operation with
      | true => exact .linkedName byId byName
      | false => exact .linkedRefused byId byName
  | nickname text =>
    cases byName : context.server.capabilities.byName operation with
    | true => exact .name byName
    | false =>
      cases translated : context.server.capabilities.byId operation &&
          context.server.capabilities.lookupByName with
      | false => exact .nameRefused byName translated
      | true =>
        simp only [Bool.and_eq_true] at translated
        simp only [Bool.false_eq_true, if_false, if_true, run_bind, run_askUser]
        cases answered : context.remote.user (.name text) context.mode with
        | ok record => exact .nameFound byName translated.1 translated.2 answered
        | error failure => exact .nameLost byName translated.1 translated.2 answered
  | id text =>
    cases byId : context.server.capabilities.byId operation with
    | true => exact .id byId
    | false =>
      cases translated : context.server.capabilities.byName operation &&
          context.server.capabilities.lookupById with
      | false => exact .idRefused byId translated
      | true =>
        simp only [Bool.and_eq_true] at translated
        simp only [Bool.false_eq_true, if_false, if_true, run_bind, run_askUser]
        cases answered : context.remote.user (.id text) context.mode with
        | ok record => exact .idFound byId translated.1 translated.2 answered
        | error failure => exact .idLost byId translated.1 translated.2 answered

/-- The beatmap that `lb` is about in a room: the one typed, else the last one shown there. -/
def beatmapOf (context : Context) (books : Books) (room : String) : Option String :=
  match context.arguments.nickname with
  | beatmapId :: _ => some beatmapId
  | [] => books.chats.lastBeatmap? room

variable {context : Context} {operation : Operation} {player : Reference} {before after : Books}
  {result : Outcome PlayerQuery}

theorem Inquiry.players_eq (asked : Inquiry context operation before player result after) :
    after.players = before.players := by
  cases asked <;> rfl

theorem Inquiry.chats_eq (asked : Inquiry context operation before player result after) :
    after.chats = before.chats := by
  cases asked <;> rfl

/-- How a command ends: its outcome and the books afterwards, one rule for each exit. -/
inductive Ending (context : Context) (before : Books) : Command → Outcome Reply → Books → Prop
  | helped :
      Ending context before .help
        (.ok (.ofText (Report.help context.catalog context.server.name context.server.link
          context.address context.server.commands))) before
  | playerless {command : Command} :
      command.needsPlayer = true →
      context.reference = none →
      Ending context before command
        (.error (.other "command called without player resolution")) before
  | queryFailed {command : Command} {operation : Operation} {player : Reference}
      {failure : Failure} {after : Books} :
      Concerns context command operation player →
      Inquiry context operation before player (.error failure) after →
      Ending context before command (.error failure) after
  | userFailed {player : Reference} {query : PlayerQuery} {middle : Books} {failure : Failure} :
      Concerns context .user .lookup player →
      Inquiry context .lookup before player (.ok query) middle →
      context.remote.user query context.mode = .error failure →
      Ending context before .user (.error failure) (middle.noting (.user query context.mode))
  | userShown {player : Reference} {query : PlayerQuery} {middle : Books} {record : Record} :
      Concerns context .user .lookup player →
      Inquiry context .lookup before player (.ok query) middle →
      context.remote.user query context.mode = .ok record →
      Ending context before .user
        (.ok ((Reply.ofText (Report.profile context.catalog record)).withRow
          (profileButtons context record)))
        ((middle.noting (.user query context.mode)).keeping record)
  | topFailed {player : Reference} {query : PlayerQuery} {middle : Books} {failure : Failure} :
      Concerns context .top .top player →
      Inquiry context .top before player (.ok query) middle →
      context.remote.top query context.mode topLimit = .error failure →
      Ending context before .top (.error failure)
        (middle.noting (.top query context.mode topLimit))
  | topEmpty {player : Reference} {query : PlayerQuery} {middle : Books} :
      Concerns context .top .top player →
      Inquiry context .top before player (.ok query) middle →
      context.remote.top query context.mode topLimit = .ok [] →
      Ending context before .top
        (.ok (.ofText (context.text "top_empty" (playsParameters context player))))
        (middle.noting (.top query context.mode topLimit))
  | topShown {player : Reference} {query : PlayerQuery} {middle : Books} {scores : List Score} :
      Concerns context .top .top player →
      Inquiry context .top before player (.ok query) middle →
      context.remote.top query context.mode topLimit = .ok scores →
      scores ≠ [] →
      Ending context before .top
        (.ok ((Reply.ofText (Report.scores context.catalog
          (context.text "top_header" (playsParameters context player)) scores)).withRow
            (playButtons context scores)))
        (middle.noting (.top query context.mode topLimit))
  | recentFailed {player : Reference} {query : PlayerQuery} {middle : Books} {failure : Failure} :
      Concerns context .recent .recent player →
      Inquiry context .recent before player (.ok query) middle →
      context.remote.recent query context.mode = .error failure →
      Ending context before .recent (.error failure)
        (middle.noting (.recent query context.mode))
  | recentEmpty {player : Reference} {query : PlayerQuery} {middle : Books} :
      Concerns context .recent .recent player →
      Inquiry context .recent before player (.ok query) middle →
      context.remote.recent query context.mode = .ok [] →
      Ending context before .recent
        (.ok (.ofText (context.text "recent_empty" (playsParameters context player))))
        (middle.noting (.recent query context.mode))
  | recentShown {player : Reference} {query : PlayerQuery} {middle : Books} {score : Score}
      {older : List Score} :
      Concerns context .recent .recent player →
      Inquiry context .recent before player (.ok query) middle →
      context.remote.recent query context.mode = .ok (score :: older) →
      Ending context before .recent
        (.ok (scoreReply context
          (context.text "recent_header" (playsParameters context player)) score))
        ((middle.noting (.recent query context.mode)).showing context.origin score.beatmapId)
  | setUnnamed :
      Identity.explicit? context.server.capabilities context.arguments = none →
      Ending context before .set (.ok (context.usageReply .set)) before
  | setUnresolved {failure : ResolutionFailure} :
      Identity.explicit? context.server.capabilities context.arguments = some (.error failure) →
      Ending context before .set (.error (.resolution failure)) before
  | setFailed {player : Reference} {query : PlayerQuery} {middle : Books} {failure : Failure} :
      Concerns context .set .lookup player →
      Inquiry context .lookup before player (.ok query) middle →
      context.remote.user query context.mode = .error failure →
      Ending context before .set (.error failure) (middle.noting (.user query context.mode))
  | setTaken {player : Reference} {query : PlayerQuery} {middle : Books} {record : Record} :
      Concerns context .set .lookup player →
      Inquiry context .lookup before player (.ok query) middle →
      context.remote.user query context.mode = .ok record →
      isTaken middle.players context.origin.sender record.playerId = true →
      Ending context before .set
        (.ok (.ofText (context.text "set_taken" [("nickname", record.nickname)])))
        (middle.noting (.user query context.mode))
  | setUnsaved {player : Reference} {query : PlayerQuery} {middle : Books} {record : Record}
      {players : Store.Players} :
      Concerns context .set .lookup player →
      Inquiry context .lookup before player (.ok query) middle →
      context.remote.user query context.mode = .ok record →
      isTaken middle.players context.origin.sender record.playerId = false →
      middle.players.setAccount context.disk context.origin.sender
        ⟨record.playerId, record.nickname, linkedMode context⟩ = (.failed, players) →
      Ending context before .set (.error .save)
        ((middle.noting (.user query context.mode)).withPlayers players)
  | setDone {player : Reference} {query : PlayerQuery} {middle : Books} {record : Record}
      {players : Store.Players} :
      Concerns context .set .lookup player →
      Inquiry context .lookup before player (.ok query) middle →
      context.remote.user query context.mode = .ok record →
      isTaken middle.players context.origin.sender record.playerId = false →
      middle.players.setAccount context.disk context.origin.sender
        ⟨record.playerId, record.nickname, linkedMode context⟩ = (.saved, players) →
      Ending context before .set
        (.ok (.ofText (context.text "set_done"
          [("nickname", record.nickname), ("id", record.playerId)])))
        (((middle.noting (.user query context.mode)).withPlayers players).keeping record)
  | unsetMissing {players : Store.Players} :
      before.players.removeAccount context.disk context.origin.sender = (.nothing, players) →
      Ending context before .unset (.ok (.ofText (context.text "unset_missing" [])))
        (before.withPlayers players)
  | unsetUnsaved {players : Store.Players} :
      before.players.removeAccount context.disk context.origin.sender = (.failed, players) →
      Ending context before .unset (.error .save) (before.withPlayers players)
  | unsetDone {players : Store.Players} :
      before.players.removeAccount context.disk context.origin.sender = (.saved, players) →
      Ending context before .unset (.ok (.ofText (context.text "unset_done" [])))
        (before.withPlayers players)
  | modeUnnamed :
      context.arguments.mode = none ∨ context.arguments.full ≠ [] →
      Ending context before .mode
        (.ok (.ofText (context.text "mode_invalid" [("modes", Mode.listing)]))) before
  | modeUnlinked {mode : Mode} {players : Store.Players} :
      context.arguments.mode = some mode →
      context.arguments.full = [] →
      before.players.setMode context.disk context.origin.sender mode = (.nothing, players) →
      Ending context before .mode
        (.ok (.ofText (context.text "no_linked_account" [("set", context.setLine)])))
        (before.withPlayers players)
  | modeUnsaved {mode : Mode} {players : Store.Players} :
      context.arguments.mode = some mode →
      context.arguments.full = [] →
      before.players.setMode context.disk context.origin.sender mode = (.failed, players) →
      Ending context before .mode (.error .save) (before.withPlayers players)
  | modeDone {mode : Mode} {players : Store.Players} :
      context.arguments.mode = some mode →
      context.arguments.full = [] →
      before.players.setMode context.disk context.origin.sender mode = (.saved, players) →
      Ending context before .mode
        (.ok (.ofText (context.text "mode_done" [("mode", mode.name)])))
        (before.withPlayers players)
  | chatRefused {reply : Reply} :
      chatRoom context = .error reply →
      Ending context before .chat (.ok reply) before
  | chatEmpty {room : String} :
      chatRoom context = .ok room →
      knownBoard before.players (before.linkedPlayers room) context.mode = [] →
      Ending context before .chat (.ok (.ofText (context.text "chat_empty" []))) before
  | chatShown {room : String} {entries : List Entry} :
      chatRoom context = .ok room →
      knownBoard before.players (before.linkedPlayers room) context.mode = entries →
      entries ≠ [] →
      Ending context before .chat
        (.ok (.ofText (Report.leaderboard context.catalog
          (context.text "chat_header" [("mode", context.mode.name)]) entries))) before
  | boardRoomless :
      context.origin.room = none →
      Ending context before .leaderboard (.ok (.ofText (context.text "chat_no_room" []))) before
  | boardMapless {room : String} :
      context.origin.room = some room →
      beatmapOf context before room = none →
      Ending context before .leaderboard (.ok (.ofText (context.text "lb_no_map" []))) before
  | boardDeserted {room beatmapId : String} :
      context.origin.room = some room →
      beatmapOf context before room = some beatmapId →
      before.linkedPlayers room = [] →
      Ending context before .leaderboard
        (.ok (.ofText (context.text "lb_empty" [("beatmap", beatmapId)]))) before
  | boardFailed {room beatmapId : String} {failure : Failure} :
      context.origin.room = some room →
      beatmapOf context before room = some beatmapId →
      before.linkedPlayers room ≠ [] →
      context.remote.leaderboard beatmapId (before.linkedPlayers room) context.mode
        context.arguments.mods? = .error failure →
      Ending context before .leaderboard (.error failure)
        (before.noting (.leaderboard beatmapId (before.linkedPlayers room) context.mode
          context.arguments.mods?))
  | boardEmpty {room beatmapId : String} {answered : List Entry} :
      context.origin.room = some room →
      beatmapOf context before room = some beatmapId →
      before.linkedPlayers room ≠ [] →
      context.remote.leaderboard beatmapId (before.linkedPlayers room) context.mode
        context.arguments.mods? = .ok answered →
      Leaderboard.rank answered = [] →
      Ending context before .leaderboard
        (.ok (.ofText (context.text "lb_empty" [("beatmap", beatmapId)])))
        (before.noting (.leaderboard beatmapId (before.linkedPlayers room) context.mode
          context.arguments.mods?))
  | boardShown {room beatmapId : String} {answered : List Entry} :
      context.origin.room = some room →
      beatmapOf context before room = some beatmapId →
      before.linkedPlayers room ≠ [] →
      context.remote.leaderboard beatmapId (before.linkedPlayers room) context.mode
        context.arguments.mods? = .ok answered →
      Leaderboard.rank answered ≠ [] →
      Ending context before .leaderboard
        (.ok (.ofText (Report.leaderboard context.catalog
          (context.text "lb_header"
            [("beatmap", beatmapId), ("mode", context.mode.name),
              ("mods", (context.arguments.mods?.getD Mods.none).text)])
          (Leaderboard.rank answered))))
        (before.noting (.leaderboard beatmapId (before.linkedPlayers room) context.mode
          context.arguments.mods?))
  | scoreUnnamed :
      context.arguments.nickname = [] →
      Ending context before .score (.ok (context.usageReply .score)) before
  | scoreFailed {scoreId : String} {more : List String} {failure : Failure} :
      context.arguments.nickname = scoreId :: more →
      context.remote.score scoreId context.mode = .error failure →
      Ending context before .score (.error failure)
        (before.noting (.score scoreId context.mode))
  | scoreShown {scoreId : String} {more : List String} {score : Score} :
      context.arguments.nickname = scoreId :: more →
      context.remote.score scoreId context.mode = .ok score →
      Ending context before .score
        (.ok (scoreReply context
          (context.text "score_header"
            [("score", score.scoreId.getD ""), ("mode", context.mode.name)]) score))
        ((before.noting (.score scoreId context.mode)).showing context.origin score.beatmapId)
  | renderUnavailable :
      context.renderer = none →
      Ending context before .render (.ok (.ofText (context.text "unsupported" []))) before
  | renderUnnamed {renderer : Renderer} :
      context.renderer = some renderer →
      context.arguments.nickname = [] →
      Ending context before .render (.ok (context.usageReply .render)) before
  | renderFailed {renderer : Renderer} {scoreId : String} {more : List String}
      {failure : Failure} :
      context.renderer = some renderer →
      context.arguments.nickname = scoreId :: more →
      context.remote.score scoreId context.mode = .error failure →
      Ending context before .render (.error failure)
        (before.noting (.score scoreId context.mode))
  | renderUndrawn {renderer : Renderer} {scoreId : String} {more : List String} {score : Score}
      {failure : Failure} :
      context.renderer = some renderer →
      context.arguments.nickname = scoreId :: more →
      context.remote.score scoreId context.mode = .ok score →
      renderer score context.mode = .error failure →
      Ending context before .render (.error failure)
        (((before.noting (.score scoreId context.mode)).showing context.origin
          score.beatmapId).noting (.render score context.mode))
  | renderDone {renderer : Renderer} {scoreId : String} {more : List String} {score : Score}
      {image : Image} :
      context.renderer = some renderer →
      context.arguments.nickname = scoreId :: more →
      context.remote.score scoreId context.mode = .ok score →
      renderer score context.mode = .ok image →
      Ending context before .render
        (.ok ((Reply.ofText (context.text "render_done"
          [("score", score.scoreId.getD "")])).withImage image))
        (((before.noting (.score scoreId context.mode)).showing context.origin
          score.beatmapId).noting (.render score context.mode))

theorem Ending.unlinked {outcome : Outcome Reply}
    (ending : Ending context before .mode outcome after) {mode : Mode}
    (typed : context.arguments.mode = some mode) (alone : context.arguments.full = [])
    (missing : before.players.account? context.origin.sender = none) :
    outcome = .ok (.ofText (context.text "no_linked_account" [("set", context.setLine)])) := by
  have nothing : ∀ mode, before.players.data.withMode? context.origin.sender mode = none := by
    intro mode
    unfold Store.PlayerData.withMode?
    unfold Store.Players.account? at missing
    rw [missing]
    rfl
  cases ending with
  | playerless needed _ => cases needed
  | queryFailed concerns _ => cases concerns
  | modeUnnamed unnamed =>
    rcases unnamed with untyped | more
    · rw [typed] at untyped
      cases untyped
    · exact absurd alone more
  | modeUnlinked _ _ _ => rfl
  | modeUnsaved _ _ changed =>
    unfold Store.Players.setMode at changed
    rw [nothing] at changed
    cases changed
  | modeDone _ _ changed =>
    unfold Store.Players.setMode at changed
    rw [nothing] at changed
    cases changed

variable (context : Context) (books : Books)

theorem help_ending :
    Ending context books .help (help.run context books).1 (help.run context books).2 := .helped

theorem user_ending :
    Ending context books .user (user.run context books).1 (user.run context books).2 := by
  unfold user
  simp only [run_bind, run_read, run_reference]
  cases found : context.reference with
  | none => exact .playerless rfl found
  | some player =>
    have asked := inquiry context books player .lookup
    rcases queried : (playerQuery player .lookup).run context books with ⟨failure | query, middle⟩ <;>
      simp only [queried] at asked ⊢
    · exact .queryFailed (.user found) asked
    · simp only [run_askUser]
      cases answered : context.remote.user query context.mode with
      | error failure => exact .userFailed (.user found) asked answered
      | ok record => exact .userShown (.user found) asked answered

theorem top_ending :
    Ending context books .top (top.run context books).1 (top.run context books).2 := by
  unfold top
  simp only [run_bind, run_read, run_reference]
  cases found : context.reference with
  | none => exact .playerless rfl found
  | some player =>
    have asked := inquiry context books player .top
    rcases queried : (playerQuery player .top).run context books with ⟨failure | query, middle⟩ <;>
      simp only [queried] at asked ⊢
    · exact .queryFailed (.top found) asked
    · simp only [run_askTop]
      cases answered : context.remote.top query context.mode topLimit with
      | error failure => exact .topFailed (.top found) asked answered
      | ok scores =>
        cases scores with
        | nil => exact .topEmpty (.top found) asked answered
        | cons score more => exact .topShown (.top found) asked answered (by simp)

theorem recent_ending :
    Ending context books .recent (recent.run context books).1 (recent.run context books).2 := by
  unfold recent
  simp only [run_bind, run_read, run_reference]
  cases found : context.reference with
  | none => exact .playerless rfl found
  | some player =>
    have asked := inquiry context books player .recent
    rcases queried : (playerQuery player .recent).run context books with ⟨failure | query, middle⟩ <;>
      simp only [queried] at asked ⊢
    · exact .queryFailed (.recent found) asked
    · simp only [run_askRecent]
      cases answered : context.remote.recent query context.mode with
      | error failure => exact .recentFailed (.recent found) asked answered
      | ok scores =>
        cases scores with
        | nil => exact .recentEmpty (.recent found) asked answered
        | cons score older =>
          simp only [run_bind, run_showBeatmap]
          exact .recentShown (.recent found) asked answered

theorem set_ending :
    Ending context books .set (set.run context books).1 (set.run context books).2 := by
  unfold set
  simp only [run_bind, run_read]
  cases typed : Identity.explicit? context.server.capabilities context.arguments with
  | none => exact .setUnnamed typed
  | some player =>
    cases player with
    | error failure => exact .setUnresolved typed
    | ok player =>
      have asked := inquiry context books player .lookup
      rcases queried : (playerQuery player .lookup).run context books with
        ⟨failure | query, middle⟩ <;>
        simp only [queried, run_bind] at asked ⊢
      · exact .queryFailed (.set typed) asked
      · simp only [run_askUser]
        cases answered : context.remote.user query context.mode with
        | error failure => exact .setFailed (.set typed) asked answered
        | ok record =>
          cases taken : isTaken middle.players context.origin.sender record.playerId with
          | true =>
            simp only [run_get, Books.noting_players, taken, if_true]
            exact .setTaken (.set typed) asked answered taken
          | false =>
            simp only [run_get, Books.noting_players, taken, Bool.false_eq_true, if_false, run_bind,
              run_changeAccount]
            rcases changed : middle.players.setAccount context.disk context.origin.sender
              ⟨record.playerId, record.nickname, linkedMode context⟩ with ⟨_ | _ | _, players⟩
            · exact .setDone (.set typed) asked answered taken changed
            · have impossible := (Store.Players.commit_nothing changed).1
              cases impossible
            · exact .setUnsaved (.set typed) asked answered taken changed

theorem unset_ending :
    Ending context books .unset (unset.run context books).1 (unset.run context books).2 := by
  unfold unset
  simp only [run_bind, run_read, run_changeAccount]
  rcases changed : books.players.removeAccount context.disk context.origin.sender with
    ⟨_ | _ | _, players⟩
  · exact .unsetDone changed
  · exact .unsetMissing changed
  · exact .unsetUnsaved changed

theorem mode_ending :
    Ending context books .mode (mode.run context books).1 (mode.run context books).2 := by
  unfold mode
  simp only [run_bind, run_read]
  cases typed : context.arguments.mode with
  | none => exact .modeUnnamed (.inl typed)
  | some named =>
    cases full : context.arguments.full with
    | cons token more => exact .modeUnnamed (.inr (by simp [full]))
    | nil =>
      simp only [run_bind, run_changeAccount]
      rcases changed : books.players.setMode context.disk context.origin.sender named with
        ⟨_ | _ | _, players⟩
      · exact .modeDone typed full changed
      · exact .modeUnlinked typed full changed
      · exact .modeUnsaved typed full changed

theorem chat_ending :
    Ending context books .chat (chat.run context books).1 (chat.run context books).2 := by
  unfold chat
  simp only [run_bind, run_read]
  cases chosen : chatRoom context with
  | error reply => exact .chatRefused chosen
  | ok room =>
    simp only [run_bind, run_memberPlayers, run_get]
    cases board : knownBoard books.players (books.linkedPlayers room) context.mode with
    | nil => exact .chatEmpty chosen board
    | cons entry more => exact .chatShown chosen board (by simp)

theorem run_boardBeatmap (room : String) :
    (boardBeatmap room).run context books = (.ok (beatmapOf context books room), books) := by
  unfold boardBeatmap beatmapOf
  rw [run_bind, run_read]
  cases typed : context.arguments.nickname with
  | nil => simp only [typed, run_bind, run_get, run_pure]
  | cons beatmapId more => simp only [typed, run_pure]

theorem run_beatmapBoard (beatmapId : String) {playerIds : List String} {mods : Option Mods}
    (populated : playerIds ≠ []) :
    (beatmapBoard beatmapId playerIds mods).run context books =
      ((context.remote.leaderboard beatmapId playerIds context.mode mods).map Leaderboard.rank,
        books.noting (.leaderboard beatmapId playerIds context.mode mods)) := by
  unfold beatmapBoard
  simp only [List.isEmpty_iff, populated, if_false, run_bind, run_askLeaderboard]
  cases context.remote.leaderboard beatmapId playerIds context.mode mods <;> rfl

theorem leaderboard_ending :
    Ending context books .leaderboard (leaderboard.run context books).1
      (leaderboard.run context books).2 := by
  unfold leaderboard
  simp only [run_bind, run_read]
  cases place : context.origin.room with
  | none => exact .boardRoomless place
  | some room =>
    simp only [run_bind, run_boardBeatmap]
    cases beatmap : beatmapOf context books room with
    | none => exact .boardMapless place beatmap
    | some beatmapId =>
      simp only [run_bind, run_memberPlayers]
      by_cases deserted : books.linkedPlayers room = []
      · rw [deserted]
        exact .boardDeserted place beatmap deserted
      · rw [run_beatmapBoard context books beatmapId deserted]
        cases answered : context.remote.leaderboard beatmapId (books.linkedPlayers room)
          context.mode context.arguments.mods? with
        | error failure => exact .boardFailed place beatmap deserted answered
        | ok entries =>
          by_cases unranked : Leaderboard.rank entries = []
          · simp only [Except.map, unranked]
            exact .boardEmpty place beatmap deserted answered unranked
          · simp only [Except.map, List.isEmpty_iff, unranked, if_false]
            exact .boardShown place beatmap deserted answered unranked

theorem run_typedScore :
    typedScore.run context books =
      match context.arguments.nickname with
      | [] => (.ok none, books)
      | scoreId :: _ =>
        match context.remote.score scoreId context.mode with
        | .ok score =>
          (.ok (some score),
            (books.noting (.score scoreId context.mode)).showing context.origin score.beatmapId)
        | .error failure => (.error failure, books.noting (.score scoreId context.mode)) := by
  unfold typedScore
  simp only [run_bind, run_read]
  cases typed : context.arguments.nickname with
  | nil => rfl
  | cons scoreId more =>
    simp only [run_bind, run_askScore]
    cases answered : context.remote.score scoreId context.mode with
    | error failure => rfl
    | ok score => simp only [run_showBeatmap, run_pure]

theorem score_ending :
    Ending context books .score (score.run context books).1 (score.run context books).2 := by
  unfold score
  simp only [run_bind, run_read, run_typedScore]
  cases typed : context.arguments.nickname with
  | nil => exact .scoreUnnamed typed
  | cons scoreId more =>
    cases answered : context.remote.score scoreId context.mode with
    | error failure => simpa only [answered] using .scoreFailed typed answered
    | ok score => simpa only [answered] using .scoreShown typed answered

theorem render_ending :
    Ending context books .render (render.run context books).1 (render.run context books).2 := by
  unfold render
  simp only [run_bind, run_read]
  cases drawing : context.renderer with
  | none => exact .renderUnavailable drawing
  | some renderer =>
    simp only [run_bind, run_typedScore]
    cases typed : context.arguments.nickname with
    | nil => exact .renderUnnamed drawing typed
    | cons scoreId more =>
      cases answered : context.remote.score scoreId context.mode with
      | error failure => simpa only [answered] using .renderFailed drawing typed answered
      | ok score =>
        simp only [answered, run_bind, run_askImage]
        cases drawn : renderer score context.mode with
        | error failure => exact .renderUndrawn drawing typed answered drawn
        | ok image => exact .renderDone drawing typed answered drawn

/-- Every run of a command is one of the endings. -/
theorem ending (command : Command) :
    Ending context books command ((ofCommand command).run context books).1
      ((ofCommand command).run context books).2 := by
  cases command with
  | help => exact help_ending context books
  | user => exact user_ending context books
  | top => exact top_ending context books
  | recent => exact recent_ending context books
  | set => exact set_ending context books
  | unset => exact unset_ending context books
  | mode => exact mode_ending context books
  | chat => exact chat_ending context books
  | leaderboard => exact leaderboard_ending context books
  | score => exact score_ending context books
  | render => exact render_ending context books

end RhythmBot.Answer
