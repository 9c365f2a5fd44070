import RhythmBot.Proofs.Answer.Written
import RhythmBot.Proofs.Session.Turn
import RhythmBot.Proofs.Store.Records
/-!
The records that a server keeps in a session, one after the other. Main statement: after every run
from a store without records, the one found for a player in a mode is the last one kept of them.
-/

namespace RhythmBot

namespace Answer

open Store.PlayerData (Tracks)

/-- What a command writes keeps up with the records kept. -/
theorem Written.tracks {context : Context} {players : Store.Players} {calls : List Call}
    {command : Command} {outcome : Outcome Reply} {next : Store.PlayerData} {kept : List Record}
    (written : Written context players calls command outcome next)
    (tracks : Tracks kept players.data) :
    Tracks
      (kept ++
        (kept? context.remote context.origin.sender players calls command outcome).toList)
      next := by
  have records := written.records
  cases found : kept? context.remote context.origin.sender players calls command outcome with
  | none =>
    rw [Option.toList_none, List.append_nil]
    simp only [found] at records
    exact tracks.of_records records
  | some record =>
    rw [Option.toList_some]
    simp only [found] at records
    exact (tracks.file record).of_records records

end Answer

namespace Session

open Store.PlayerData (Tracks)

def keptAt? (session : Session) (position : Nat) (world : World) (state : State)
    (message : Message) : Option Record :=
  match session.route message.body with
  | .invocation invocation =>
    if invocation.position = position then
      match session.contextFor world state message.origin invocation with
      | .ok context =>
        let ending := (Answer.ofCommand invocation.command).run context
          ((state.seen message.origin).books invocation.position)
        Answer.kept? context.remote context.origin.sender (state.players invocation.position)
          ending.2.calls invocation.command ending.1
      | .error _ => none
    else none
  | _ => none

/-- The records that the server at a position keeps in a run. A snapshot that is saved keeps none. -/
def history (session : Session) (position : Nat) : State → List Event → List Record
  | _, [] => []
  | state, .message world message :: later =>
    (session.keptAt? position world state message).toList ++
      session.history position (session.handle world state message).state later
  | state, .snapshot players chats :: later =>
    session.history position (session.step state (.snapshot players chats)) later

theorem handle_tracks (session : Session) (world : World) (state : State) (message : Message)
    {position : Nat} {kept : List Record} (tracks : Tracks kept (state.players position).data) :
    Tracks (kept ++ (session.keptAt? position world state message).toList)
      ((session.handle world state message).state.players position).data := by
  unfold handle keptAt?
  cases routed : session.route message.body with
  | ignored | unknownCommand _ =>
    rw [Option.toList_none, List.append_nil]
    exact tracks
  | invocation invocation =>
    simp only [dispatch_eq]
    cases prepared : session.contextFor world state message.origin invocation with
    | error failure =>
      simp only [ite_self, Option.toList_none, List.append_nil, State.seen_players]
      exact tracks
    | ok context =>
      have ending := Answer.ending context
        ((state.seen message.origin).books invocation.position) invocation.command
      have written := ending.written rfl
      rw [State.books_players, State.seen_players] at written
      by_cases here : invocation.position = position
      · subst here
        simp only [if_true, State.taking_players]
        exact written.tracks tracks
      · simp only [here, if_false, State.taking_players, Ne.symm here, State.seen_players,
          Option.toList_none, List.append_nil]
        exact tracks

/-- Records kept before a run and in it, one after the other, are what is found afterwards. -/
theorem run_tracks (session : Session) (position : Nat) (events : List Event) {state : State}
    {kept : List Record} (tracks : Tracks kept (state.players position).data) :
    Tracks (kept ++ session.history position state events)
      ((session.run state events).players position).data := by
  induction events generalizing state kept with
  | nil =>
    rw [history, List.append_nil]
    exact tracks
  | cons event later ih =>
    cases event with
    | message world message =>
      rw [history, ← List.append_assoc]
      exact ih (session.handle_tracks world state message tracks)
    | snapshot players chats =>
      rw [history]
      exact ih tracks

/-- In a run from a store without records, the record found for a player in a mode is the last one
that was kept of that player in that mode. -/
theorem run_record? (session : Session) (start : State) (events : List Event) (position : Nat)
    (empty : (start.players position).data = .empty) (playerId : String) (mode : Mode) :
    ((session.run start events).players position).record? playerId mode =
      Store.PlayerData.lastRecord? (session.history position start events) playerId mode := by
  have start_tracks : Tracks [] (start.players position).data := by
    rw [empty]
    exact Store.PlayerData.tracks_empty
  have tracks := session.run_tracks position events start_tracks
  exact tracks playerId mode

end Session

end RhythmBot
