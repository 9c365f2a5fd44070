import RhythmBot.Proofs.Session.Turn
/-!
The last beatmap of a room. Main statement: after every run it is that of the last play brought up in
the room, by showing it or by handing it to the renderer; a play that could not be drawn counts.
-/

namespace RhythmBot

theorem Books.lastBeatmap?_showing (books : Books) (origin : Origin) (beatmapId room : String) :
    (books.showing origin beatmapId).chats.lastBeatmap? room =
      if origin.room = some room then some beatmapId else books.chats.lastBeatmap? room := by
  unfold Books.showing
  cases place : origin.room with
  | none => rfl
  | some other =>
    have changed := Store.ChatData.lastBeatmap?_setLastBeatmap books.chats.data other beatmapId room
    simp only [Option.some.injEq, @eq_comm _ other room]
    exact changed

@[simp] theorem State.lastBeatmap?_seen (state : State) (origin : Origin) (room : String) :
    (state.seen origin).chats.lastBeatmap? room = state.chats.lastBeatmap? room := by
  unfold seen
  split <;> rfl

namespace Answer

/-- The play that the last of some calls is about: the first one that the server gave, or the one
handed to the renderer. -/
def play? (remote : Remote) (calls : List Call) : Option Score :=
  match calls.getLast? with
  | some (.recent query mode) => (remote.recent query mode).toOption.bind List.head?
  | some (.score scoreId mode) => (remote.score scoreId mode).toOption
  | some (.render play _) => some play
  | _ => none

/-- A command brings up a play: its reply shows the first of the recent plays or the play of an id,
or has the play's image. The last case is that of a play which the renderer did not draw: it alone fails. -/
inductive BringsUp (context : Context) (calls : List Call) :
    Command → Outcome Reply → Score → Prop
  | recent {query : PlayerQuery} {header : String} {play : Score} {older : List Score} :
      calls.getLast? = some (.recent query context.mode) →
      context.remote.recent query context.mode = .ok (play :: older) →
      BringsUp context calls .recent (.ok (scoreReply context header play)) play
  | score {scoreId header : String} {play : Score} :
      calls = [.score scoreId context.mode] →
      context.remote.score scoreId context.mode = .ok play →
      BringsUp context calls .score (.ok (scoreReply context header play)) play
  | drawn {scoreId text : String} {play : Score} {renderer : Renderer} {image : Image} :
      calls = [.score scoreId context.mode, .render play context.mode] →
      context.remote.score scoreId context.mode = .ok play →
      context.renderer = some renderer →
      renderer play context.mode = .ok image →
      BringsUp context calls .render (.ok ((Reply.ofText text).withImage image)) play
  | undrawn {scoreId : String} {play : Score} {renderer : Renderer} {failure : Failure} :
      calls = [.score scoreId context.mode, .render play context.mode] →
      context.remote.score scoreId context.mode = .ok play →
      context.renderer = some renderer →
      renderer play context.mode = .error failure →
      BringsUp context calls .render (.error failure) play

variable {context : Context} {before after : Books} {command : Command} {outcome : Outcome Reply}

theorem BringsUp.play? {calls : List Call} {play : Score}
    (brings : BringsUp context calls command outcome play) :
    Answer.play? context.remote calls = some play := by
  cases brings with
  | recent last answered =>
    unfold Answer.play?
    simp only [last, answered]
    rfl
  | score last answered =>
    subst last
    simp only [Answer.play?, List.getLast?_singleton, answered]
    rfl
  | drawn last _ _ _ | undrawn last _ _ _ =>
    subst last
    rfl

theorem play?_concat (remote : Remote) (calls : List Call) (call : Call) :
    Answer.play? remote (calls ++ [call]) = Answer.play? remote [call] := by
  unfold Answer.play?
  rw [List.getLast?_concat, List.getLast?_singleton]

theorem Inquiry.play? {operation : Operation} {player : Reference} {result : Outcome PlayerQuery}
    (asked : Inquiry context operation before player result after) (fresh : before.calls = []) :
    Answer.play? context.remote after.calls = none := by
  cases asked with
  | nameFound _ _ _ _ | nameLost _ _ _ _ | idFound _ _ _ _ | idLost _ _ _ _ =>
    rw [Books.noting_calls, play?_concat]
    rfl
  | _ =>
    rw [fresh]
    rfl

/-- What a command leaves of the chats: either the play that its calls are about is brought up, or
there is none and nothing changes. -/
theorem Ending.play? (ending : Ending context before command outcome after)
    (fresh : before.calls = []) :
    (∃ play, BringsUp context after.calls command outcome play ∧
        after.chats = (before.showing context.origin play.beatmapId).chats) ∨
      (Answer.play? context.remote after.calls = none ∧ after.chats = before.chats) := by
  cases ending with
  | @recentShown player query middle play older concerns asked answered =>
    refine .inl ⟨play, .recent ?_ answered, ?_⟩
    · rw [Books.showing_calls, Books.noting_calls, List.getLast?_concat]
    · unfold Books.showing
      split
      · rw [Books.noting_chats, asked.chats_eq]
      · rw [Books.noting_chats, asked.chats_eq]
  | @scoreShown scoreId more play typed answered =>
    refine .inl ⟨play, .score ?_ answered, ?_⟩
    · rw [Books.showing_calls, Books.noting_calls, fresh, List.nil_append]
    · unfold Books.showing
      split <;> rfl
  | @renderDone renderer scoreId more play image drawing typed answered drawn =>
    refine .inl ⟨play, .drawn ?_ answered drawing drawn, ?_⟩
    · rw [Books.noting_calls, Books.showing_calls, Books.noting_calls, fresh]
      rfl
    · unfold Books.showing
      split <;> rfl
  | @renderUndrawn renderer scoreId more play failure drawing typed answered refused =>
    refine .inl ⟨play, .undrawn ?_ answered drawing refused, ?_⟩
    · rw [Books.noting_calls, Books.showing_calls, Books.noting_calls, fresh]
      rfl
    · unfold Books.showing
      split <;> rfl
  | queryFailed _ asked => exact .inr ⟨asked.play? fresh, asked.chats_eq⟩
  | recentFailed _ asked answered | recentEmpty _ asked answered =>
    refine .inr ⟨?_, asked.chats_eq⟩
    rw [Books.noting_calls, play?_concat]
    simp only [Answer.play?, List.getLast?_singleton, answered]
    rfl
  | scoreFailed _ answered | renderFailed _ _ answered =>
    refine .inr ⟨?_, rfl⟩
    rw [Books.noting_calls, play?_concat]
    simp only [Answer.play?, List.getLast?_singleton, answered]
    rfl
  | userFailed _ asked _ | userShown _ asked _ | topFailed _ asked _ | topEmpty _ asked _
  | topShown _ asked _ _ | setFailed _ asked _ | setTaken _ asked _ _ | setUnsaved _ asked _ _ _
  | setDone _ asked _ _ _ =>
    refine .inr ⟨?_, asked.chats_eq⟩
    simp only [Books.keeping_calls, Books.withPlayers_calls, Books.noting_calls, play?_concat]
    rfl
  | boardFailed _ _ _ _ | boardEmpty _ _ _ _ _ | boardShown _ _ _ _ _ =>
    refine .inr ⟨?_, rfl⟩
    rw [Books.noting_calls, play?_concat]
    rfl
  | _ =>
    refine .inr ⟨?_, rfl⟩
    simp only [Books.withPlayers_calls, fresh]
    rfl

end Answer

namespace Session

variable {session : Session} {world : World} {state : State} {message : Message} {room : String}
  {play : Score}

def BringsUp (session : Session) (world : World) (state : State) (message : Message)
    (play : Score) : Prop :=
  ∃ invocation context outcome,
    session.route message.body = .invocation invocation ∧
      session.contextFor world state message.origin invocation = .ok context ∧
      Answer.BringsUp context (session.handle world state message).calls invocation.command outcome
        play ∧
      (session.handle world state message).reply =
        some ((session.replyTo invocation.server outcome).tag invocation.server.name)

def Shows (session : Session) (world : World) (state : State) (message : Message) (play : Score) :
    Prop :=
  ∃ invocation context reply,
    session.route message.body = .invocation invocation ∧
      session.contextFor world state message.origin invocation = .ok context ∧
      Answer.BringsUp context (session.handle world state message).calls invocation.command
        (.ok reply) play ∧
      (session.handle world state message).reply = some (reply.tag invocation.server.name)

theorem Shows.bringsUp (shows : session.Shows world state message play) :
    session.BringsUp world state message play := by
  obtain ⟨invocation, context, reply, routed, prepared, brings, answered⟩ := shows
  exact ⟨invocation, context, .ok reply, routed, prepared, brings, answered⟩

def BringsUpIn (session : Session) (room : String) (state : State) : Event → Score → Prop
  | .message world message, play =>
    message.origin.room = some room ∧ session.BringsUp world state message play
  | .snapshot _ _, _ => False

def ShowsIn (session : Session) (room : String) (state : State) : Event → Score → Prop
  | .message world message, play =>
    message.origin.room = some room ∧ session.Shows world state message play
  | .snapshot _ _, _ => False

theorem ShowsIn.bringsUpIn {event : Event} (shows : session.ShowsIn room state event play) :
    session.BringsUpIn room state event play := by
  cases event with
  | message world message => exact ⟨shows.1, shows.2.bringsUp⟩
  | snapshot players chats => exact shows

theorem handle_lastBeatmap? (session : Session) (world : World) (state : State) (message : Message)
    (room : String) :
    (∃ play, message.origin.room = some room ∧ session.BringsUp world state message play ∧
        (session.handle world state message).state.chats.lastBeatmap? room = some play.beatmapId) ∨
      ((∀ play, message.origin.room = some room → ¬ session.BringsUp world state message play) ∧
        (session.handle world state message).state.chats.lastBeatmap? room =
          state.chats.lastBeatmap? room) := by
  have turned := session.handled world state message
  unfold BringsUp
  generalize session.handle world state message = turn at turned
  have uncalled : turn.calls = [] → ∀ play, ¬ ∃ invocation context outcome,
      session.route message.body = .invocation invocation ∧
        session.contextFor world state message.origin invocation = .ok context ∧
        Answer.BringsUp context turn.calls invocation.command outcome play ∧
        turn.reply =
          some ((session.replyTo invocation.server outcome).tag invocation.server.name) := by
    rintro none play ⟨invocation, context, outcome, _, _, brings, _⟩
    have called := brings.play?
    rw [none] at called
    cases called
  cases turned with
  | ignored _ | unknown _ => exact .inr ⟨fun play _ => uncalled rfl play, rfl⟩
  | unresolved _ _ =>
    exact .inr ⟨fun play _ => uncalled rfl play, State.lastBeatmap?_seen ..⟩
  | @answered invocation context outcome after routed prepared ending =>
    have origin : context.origin = message.origin := by
      obtain ⟨_, _, rfl⟩ := contextFor_eq_ok prepared
      rfl
    rcases ending.play? rfl with ⟨play, brings, chats⟩ | ⟨none, chats⟩
    · have last : after.chats.lastBeatmap? room =
          if message.origin.room = some room then some play.beatmapId
          else state.chats.lastBeatmap? room := by
        rw [chats, Books.lastBeatmap?_showing, origin]
        congr 1
        exact State.lastBeatmap?_seen ..
      by_cases here : message.origin.room = some room
      · rw [if_pos here] at last
        exact .inl ⟨play, here, ⟨invocation, context, outcome, routed, prepared, brings, rfl⟩, last⟩
      · rw [if_neg here] at last
        exact .inr ⟨fun _ there => absurd there here, last⟩
    · refine .inr ⟨?_, ?_⟩
      · rintro play _ ⟨_, _, _, alsoRouted, alsoPrepared, brings, _⟩
        rw [routed] at alsoRouted
        cases alsoRouted
        rw [prepared] at alsoPrepared
        cases alsoPrepared
        rw [brings.play?] at none
        cases none
      · change after.chats.lastBeatmap? room = _
        rw [chats]
        exact State.lastBeatmap?_seen ..

theorem step_lastBeatmap? (session : Session) (state : State) (event : Event) (room : String) :
    (∃ play, session.BringsUpIn room state event play ∧
        (session.step state event).chats.lastBeatmap? room = some play.beatmapId) ∨
      ((∀ play, ¬ session.BringsUpIn room state event play) ∧
        (session.step state event).chats.lastBeatmap? room = state.chats.lastBeatmap? room) := by
  cases event with
  | snapshot players chats => exact .inr ⟨fun _ => not_false, rfl⟩
  | message world message =>
    rcases session.handle_lastBeatmap? world state message room with
      ⟨play, here, brings, last⟩ | ⟨quiet, last⟩
    · exact .inl ⟨play, ⟨here, brings⟩, last⟩
    · exact .inr ⟨fun play brings => quiet play brings.1 brings.2, last⟩

def Never (session : Session) (does : State → Event → Score → Prop) (state : State)
    (events : List Event) : Prop :=
  ∀ earlier event later, events = earlier ++ event :: later →
    ∀ play, ¬ does (session.run state earlier) event play

/-- A beatmap is that of the last play that an event of a run does something with, or the first one if
there is no such play. -/
def IsLast (session : Session) (does : State → Event → Score → Prop) (state : State)
    (events : List Event) (first last : Option String) : Prop :=
  (∃ earlier event later play,
    events = earlier ++ event :: later ∧ does (session.run state earlier) event play ∧
      session.Never does (session.step (session.run state earlier) event) later ∧
      last = some play.beatmapId) ∨
    (session.Never does state events ∧ last = first)

variable {does other : State → Event → Score → Prop}

theorem Never.cons {event : Event} {later : List Event}
    (first : ∀ play, ¬ does state event play)
    (never : session.Never does (session.step state event) later) :
    session.Never does state (event :: later) := by
  intro earlier next rest split
  cases earlier with
  | nil =>
    cases split
    exact first
  | cons head middle =>
    cases split
    exact never middle next rest rfl

theorem Never.mono {events : List Event} (never : session.Never does state events)
    (each : ∀ state event play, other state event play → does state event play) :
    session.Never other state events :=
  fun earlier event later split play holds =>
    never earlier event later split play (each _ event play holds)

theorem IsLast.mono {events : List Event} {first last : Option String}
    (isLast : session.IsLast does state events first last)
    (each : ∀ state event play, other state event play → does state event play)
    (back : ∀ earlier event later, events = earlier ++ event :: later →
      ∀ play, does (session.run state earlier) event play →
        other (session.run state earlier) event play) :
    session.IsLast other state events first last := by
  rcases isLast with ⟨earlier, event, later, play, split, holds, never, found⟩ | ⟨never, kept⟩
  · exact .inl ⟨earlier, event, later, play, split, back earlier event later split play holds,
      never.mono each, found⟩
  · exact .inr ⟨never.mono each, kept⟩

/-- Without a beatmap typed, `lb` asks any server of the session about the last one of the room. -/
theorem beatmapOf_untyped {context : Context} (untyped : context.arguments.nickname = [])
    (state : State) (position : Nat) (room : String) :
    Answer.beatmapOf context ((state.seen context.origin).books position) room =
      state.chats.lastBeatmap? room := by
  unfold Answer.beatmapOf
  rw [untyped]
  exact State.lastBeatmap?_seen ..

theorem run_isLast (session : Session) (start : State) (events : List Event) (room : String) :
    session.IsLast (session.BringsUpIn room) start events (start.chats.lastBeatmap? room)
      ((session.run start events).chats.lastBeatmap? room) := by
  induction events generalizing start with
  | nil =>
    refine .inr ⟨?_, rfl⟩
    intro earlier event later split
    cases earlier <;> cases split
  | cons event events ih =>
    rcases ih (session.step start event) with
      ⟨earlier, other, later, play, split, brings, never, found⟩ | ⟨never, kept⟩
    · exact .inl ⟨event :: earlier, other, later, play, by rw [split, List.cons_append], brings,
        never, found⟩
    -- Nothing is brought up behind the first event, so that one decides.
    · rcases session.step_lastBeatmap? start event room with ⟨play, brings, found⟩ | ⟨first, same⟩
      · exact .inl ⟨[], event, events, play, rfl, brings, never, kept.trans found⟩
      · exact .inr ⟨.cons first never, kept.trans same⟩

/-- After a run, the last beatmap of a room is that of the last play brought up there, or the initial
one if there was none. If each play brought up there was shown, it is that of the last play shown.
`lb` uses it on every server. -/
theorem run_lastBeatmap? (session : Session) (start : State) (events : List Event) (room : String) :
    let state := session.run start events
    let first := start.chats.lastBeatmap? room
    let last := state.chats.lastBeatmap? room
    session.IsLast (session.BringsUpIn room) start events first last ∧
      ((∀ earlier event later, events = earlier ++ event :: later →
          ∀ play, session.BringsUpIn room (session.run start earlier) event play →
            session.ShowsIn room (session.run start earlier) event play) →
        session.IsLast (session.ShowsIn room) start events first last) ∧
      ∀ (context : Context) (position : Nat), context.arguments.nickname = [] →
        Answer.beatmapOf context ((state.seen context.origin).books position) room = last := by
  intro state first last
  have isLast := session.run_isLast start events room
  refine ⟨isLast, ?_, ?_⟩
  · intro drawn
    exact isLast.mono (fun _ _ _ shows => shows.bringsUpIn) drawn
  · intro context position untyped
    exact beatmapOf_untyped untyped state position room

/-- The beatmap of a play shown to Ann is the one that Bob sees the leaderboard of. -/
theorem run_lastBeatmap?_shown :
    let server : Server := .sample ["lookup_by_name", "top_by_name", "score_by_id"] true rfl
    let session := single server
    let world := World.lonely "7" "Seven"
    let state := session.run ⟨fun _ => .inMemory, .inMemory⟩
      [.message world ⟨"!ex score 11", ⟨some "5", "ann", none⟩⟩]
    let context : Context := ⟨server, ⟨some "5", "bob", none⟩, ⟨none, [], [], []⟩, none, none,
      .default, '!', world.remote 0, none, .succeeds⟩
    Answer.beatmapOf context ((state.seen context.origin).books 0) "5" = some "22" := by
  intro server session world state context
  have used := (run_lastBeatmap? session ⟨fun _ => .inMemory, .inMemory⟩
    [.message world ⟨"!ex score 11", ⟨some "5", "ann", none⟩⟩] "5").2.2 context 0 rfl
  rw [used]
  rfl

/-- A play whose drawing fails is not shown, and is remembered. -/
theorem handle_undrawn_remembered :
    let server : Server := .sample ["lookup_by_name", "top_by_name", "score_by_id"] true rfl
    let session := single server
    let world : World :=
      { World.lonely "7" "Seven" with renderer := some fun _ _ => .error (.other "busy") }
    let start : State := ⟨fun _ => .inMemory, .inMemory⟩
    let turn := session.handle world start ⟨"!ex render 11", ⟨some "5", "ann", none⟩⟩
    turn.reply = some (.ofText ("[Example] " ++ Catalog.default.text "failure" [])) ∧
      start.chats.lastBeatmap? "5" = none ∧ turn.state.chats.lastBeatmap? "5" = some "22" := by
  decide

end Session

end RhythmBot
