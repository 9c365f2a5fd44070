import RhythmBot.Proofs.Answer.Numbering
import RhythmBot.Proofs.Session.LastBeatmap
import RhythmBot.Proofs.Session.Routing
/-!
The replies of a session that show plays. Main statement: whatever plays a server gives, a button that
draws one of them has the number of its line and names just that play.
-/

namespace RhythmBot.Session

/-- Where the server gives plays to the command of a message, the reply has a line for each of them and,
where plays are drawn, one row with a button for each play that has an id, in order. A button has the
number of the line of its play and a command line with the mode of the reply and the id of the play, which
reads so if the first alias of the server is a word. The buttons of the best plays stand alone, so there
are none exactly if no play can be drawn. -/
theorem handle_numbers (session : Session) (world : World) (state : State) (message : Message)
    {invocation : Invocation} (routed : session.route message.body = .invocation invocation)
    {mode : Mode} {plays : List Score}
    (given : Answer.Given (world.remote invocation.position) mode
      (session.handle world state message).calls invocation.command plays) :
    ∃ context reply row,
      session.contextFor world state message.origin invocation = .ok context ∧
        context.mode = mode ∧
        (session.handle world state message).reply = some (reply.tag invocation.server.name) ∧
        context.Numbers plays (context.boardButtons invocation.command plays) row reply ∧
        (invocation.command = .top → (reply.buttons = [] ↔
          (world.renderer.isSome && invocation.server.capabilities.scoreById) = false ∨
            ∀ play ∈ plays, play.scoreId = none)) ∧
        (Text.IsWord invocation.server.primaryAlias → ∀ line scoreId,
          CommandLine.read? session.mark (context.drawButton line scoreId).command =
            some ⟨invocation.server.primaryAlias, some Command.render.name,
              mode.name :: Text.words scoreId⟩) := by
  have solid : Text.isBlank session.mark = false := by
    have addressed : session.route message.body ≠ .ignored := by
      rw [routed]
      exact Route.noConfusion
    exact mark_solid_of_route addressed
  have turned := session.handled world state message
  generalize session.handle world state message = turn at given turned
  cases turned with
  | ignored other | unknown other =>
    rw [routed] at other
    cases other
  | unresolved _ _ => exact absurd rfl given.calls_ne_nil
  | @answered found context outcome after other prepared ending =>
    rw [routed] at other
    cases other
    obtain ⟨_, _, rfl⟩ := contextFor_eq_ok prepared
    obtain ⟨rfl, reply, row, rfl, numbers⟩ := ending.numbers rfl given
    refine ⟨_, reply, row, prepared, rfl, rfl, numbers, ?_, ?_⟩
    · intro best
      rw [best, Context.boardButtons] at numbers
      exact numbers.buttons_eq_nil_iff
    · intro word
      exact Context.read?_drawButton solid word

/-- The second and the fourth of four plays have an id, and so a button each. A single play has its own
as the first, behind the one for the leaderboard of its beatmap. -/
theorem handle_numbers_gaps :
    let server : Server :=
      .sample ["lookup_by_name", "top_by_name", "score_by_id", "leaderboard"] true rfl
    let session := single server
    let play (scoreId : Option String) : Score := ⟨scoreId, "22", "Song", .none, 0, none, "A", 0⟩
    let plays := [play none, play (some "11"), play none, play (some "12")]
    let remote : Remote := { (World.lonely "7" "Seven").remote 0 with top := fun _ _ _ => .ok plays }
    let world : World := ⟨fun _ => remote, some fun _ _ => .error .panic, fun _ => .succeeds⟩
    let turn (body : String) :=
      session.handle world ⟨fun _ => .inMemory, .inMemory⟩ ⟨body, ⟨none, "ann", none⟩⟩
    (∃ (context : Context) (reply : Reply) (row : List Button),
      (turn "!ex top taiko Seven").reply = some (reply.tag "Example") ∧ context.mode = .taiko ∧
        context.Numbers plays [] row reply ∧
        reply.buttons =
          [[⟨"Render #2", "!ex render taiko 11"⟩, ⟨"Render #4", "!ex render taiko 12"⟩]]) ∧
      ∃ (context : Context) (reply : Reply) (row : List Button),
        (turn "!ex score 11").reply = some (reply.tag "Example") ∧ context.mode = .standard ∧
          context.Numbers [play (some "11")] (context.boardButtons .score [play (some "11")]) row
            reply ∧
          reply.buttons =
            [[⟨"Beatmap leaderboard", "!ex lb standard 22"⟩,
              ⟨"Render #1", "!ex render standard 11"⟩]] := by
  intro server session play plays remote world turn
  constructor
  · obtain ⟨tokens, routed⟩ : ∃ tokens,
        session.route "!ex top taiko Seven" = .invocation ⟨0, server, .top, tokens⟩ := ⟨_, rfl⟩
    have calls : (turn "!ex top taiko Seven").calls = [.top (.name "Seven") .taiko 5] := rfl
    have made : Call.top (.name "Seven") .taiko 5 ∈ (turn "!ex top taiko Seven").calls := by
      rw [calls]
      exact List.mem_singleton_self _
    obtain ⟨context, reply, row, _, mode, answered, numbers, _, _⟩ :=
      handle_numbers session world ⟨fun _ => .inMemory, .inMemory⟩
        ⟨"!ex top taiko Seven", ⟨none, "ann", none⟩⟩ routed (.top made rfl)
    refine ⟨context, reply, row, answered, mode, numbers, ?_⟩
    have buttons : (turn "!ex top taiko Seven").reply.map Reply.buttons =
        some [[⟨"Render #2", "!ex render taiko 11"⟩, ⟨"Render #4", "!ex render taiko 12"⟩]] := by
      decide
    rw [answered] at buttons
    exact Option.some.inj buttons
  · obtain ⟨tokens, routed⟩ : ∃ tokens,
        session.route "!ex score 11" = .invocation ⟨0, server, .score, tokens⟩ := ⟨_, rfl⟩
    have calls : (turn "!ex score 11").calls = [.score "11" .standard] := rfl
    have made : Call.score "11" .standard ∈ (turn "!ex score 11").calls := by
      rw [calls]
      exact List.mem_singleton_self _
    obtain ⟨context, reply, row, _, mode, answered, numbers, _, _⟩ :=
      handle_numbers session world ⟨fun _ => .inMemory, .inMemory⟩
        ⟨"!ex score 11", ⟨none, "ann", none⟩⟩ routed (.score made rfl)
    refine ⟨context, reply, row, answered, mode, numbers, ?_⟩
    have buttons : (turn "!ex score 11").reply.map Reply.buttons =
        some [[⟨"Beatmap leaderboard", "!ex lb standard 22"⟩,
          ⟨"Render #1", "!ex render standard 11"⟩]] := by
      decide
    rw [answered] at buttons
    exact Option.some.inj buttons

end RhythmBot.Session
