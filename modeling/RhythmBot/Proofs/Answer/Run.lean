import RhythmBot.Answer
/-!
Running an answer step by step: a sequence runs its first part and goes on only behind a value, and
each step that the commands are made of has one equation for its outcome and its books.
-/

namespace RhythmBot

namespace Books

def noting (books : Books) (call : Call) : Books :=
  { books with calls := books.calls ++ [call] }

def withPlayers (books : Books) (players : Store.Players) : Books :=
  { books with players := players }

def keeping (books : Books) (record : Record) : Books :=
  books.withPlayers (books.players.putRecord record)

/-- The books after a beatmap is shown where a message comes from; only a room remembers it. -/
def showing (books : Books) (origin : Origin) (beatmapId : String) : Books :=
  match origin.room with
  | some room => { books with chats := books.chats.setLastBeatmap room beatmapId }
  | none => books

def linkedPlayers (books : Books) (room : String) : List String :=
  (books.chats.membersOf room).filterMap fun member =>
    (books.players.account? member).map Account.remoteId

@[simp] theorem noting_players (books : Books) (call : Call) :
    (books.noting call).players = books.players := rfl

@[simp] theorem noting_chats (books : Books) (call : Call) :
    (books.noting call).chats = books.chats := rfl

@[simp] theorem noting_calls (books : Books) (call : Call) :
    (books.noting call).calls = books.calls ++ [call] := rfl

@[simp] theorem withPlayers_players (books : Books) (players : Store.Players) :
    (books.withPlayers players).players = players := rfl

@[simp] theorem withPlayers_chats (books : Books) (players : Store.Players) :
    (books.withPlayers players).chats = books.chats := rfl

@[simp] theorem withPlayers_calls (books : Books) (players : Store.Players) :
    (books.withPlayers players).calls = books.calls := rfl

@[simp] theorem keeping_players (books : Books) (record : Record) :
    (books.keeping record).players = books.players.putRecord record := rfl

@[simp] theorem keeping_chats (books : Books) (record : Record) :
    (books.keeping record).chats = books.chats := rfl

@[simp] theorem keeping_calls (books : Books) (record : Record) :
    (books.keeping record).calls = books.calls := rfl

@[simp] theorem showing_players (books : Books) (origin : Origin) (beatmapId : String) :
    (books.showing origin beatmapId).players = books.players := by
  unfold showing
  split <;> rfl

@[simp] theorem showing_calls (books : Books) (origin : Origin) (beatmapId : String) :
    (books.showing origin beatmapId).calls = books.calls := by
  unfold showing
  split <;> rfl

end Books

namespace Answer

variable {α β : Type} (context : Context) (books : Books)

theorem run_bind (answer : Answer α) (next : α → Answer β) :
    (answer >>= next).run context books =
      match answer.run context books with
      | (.ok value, after) => (next value).run context after
      | (.error failure, after) => (.error failure, after) := by
  unfold run
  rw [ReaderT.run_bind, ExceptT.run_bind, StateT.run_bind]
  generalize StateT.run (ReaderT.run answer context).run books = first
  rcases first with ⟨_ | _, _⟩ <;> rfl

theorem run_pure (value : α) : (pure value : Answer α).run context books = (.ok value, books) := rfl

theorem run_read : (read : Answer Context).run context books = (.ok context, books) := rfl

theorem run_get : (get : Answer Books).run context books = (.ok books, books) := rfl

theorem run_put (later : Books) :
    (MonadStateOf.set later : Answer PUnit).run context books = (.ok ⟨⟩, later) := rfl

theorem run_modify (change : Books → Books) :
    (modify change : Answer PUnit).run context books = (.ok ⟨⟩, change books) := rfl

theorem run_fail (failure : Failure) :
    (fail failure : Answer α).run context books = (.error failure, books) := rfl

theorem run_ask (call : Call) (outcome : Outcome α) :
    (ask call outcome).run context books = (outcome, books.noting call) := by
  cases outcome <;> rfl

theorem run_askUser (query : PlayerQuery) :
    (askUser query).run context books =
      (context.remote.user query context.mode, books.noting (.user query context.mode)) := by
  unfold askUser
  rw [run_bind, run_read]
  exact run_ask ..

theorem run_askTop (query : PlayerQuery) (limit : Nat) :
    (askTop query limit).run context books =
      (context.remote.top query context.mode limit,
        books.noting (.top query context.mode limit)) := by
  unfold askTop
  rw [run_bind, run_read]
  exact run_ask ..

theorem run_askRecent (query : PlayerQuery) :
    (askRecent query).run context books =
      (context.remote.recent query context.mode, books.noting (.recent query context.mode)) := by
  unfold askRecent
  rw [run_bind, run_read]
  exact run_ask ..

theorem run_askScore (scoreId : String) :
    (askScore scoreId).run context books =
      (context.remote.score scoreId context.mode,
        books.noting (.score scoreId context.mode)) := by
  unfold askScore
  rw [run_bind, run_read]
  exact run_ask ..

theorem run_askLeaderboard (beatmapId : String) (players : List String) (mods : Option Mods) :
    (askLeaderboard beatmapId players mods).run context books =
      (context.remote.leaderboard beatmapId players context.mode mods,
        books.noting (.leaderboard beatmapId players context.mode mods)) := by
  unfold askLeaderboard
  rw [run_bind, run_read]
  exact run_ask ..

theorem run_askImage (renderer : Renderer) (score : Score) :
    (askImage renderer score).run context books =
      (renderer score context.mode, books.noting (.render score context.mode)) := by
  unfold askImage
  rw [run_bind, run_read]
  exact run_ask ..

theorem run_showBeatmap (beatmapId : String) :
    (showBeatmap beatmapId).run context books =
      (.ok ⟨⟩, books.showing context.origin beatmapId) := by
  unfold showBeatmap Books.showing
  rw [run_bind, run_read]
  cases origin : context.origin.room with
  | none => simp only [origin, run_pure]
  | some room => simp only [origin, changeChats, run_modify]

theorem run_memberPlayers (room : String) :
    (memberPlayers room).run context books = (.ok (books.linkedPlayers room), books) := rfl

theorem run_reference :
    reference.run context books =
      match context.reference with
      | some found => (.ok found, books)
      | none => (.error (.other "command called without player resolution"), books) := by
  unfold reference
  rw [run_bind, run_read]
  cases found : context.reference with
  | none => simp only [found, run_fail]
  | some player => simp only [found, run_pure]

/-- A change to an account takes the players as the disk leaves them; one that the disk refuses is
a failure. -/
theorem run_changeAccount (change : Store.Players → Store.Change × Store.Players) :
    (changeAccount change).run context books =
      match change books.players with
      | (.saved, players) => (.ok true, books.withPlayers players)
      | (.nothing, players) => (.ok false, books.withPlayers players)
      | (.failed, players) => (.error .save, books.withPlayers players) := by
  unfold changeAccount
  rw [run_bind, run_get]
  rcases changed : change books.players with ⟨_ | _ | _, players⟩ <;>
    simp only [changed, run_bind, run_put, run_pure, run_fail, Books.withPlayers]

end Answer

end RhythmBot
