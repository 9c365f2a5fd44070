import RhythmBot.Proofs.Session.LastBeatmap
/-!
Who is a member of a room. Main statement: after every run the members are the initial ones and then
the senders of the messages there that led to a command, in the order in which they first appeared,
whatever came of their messages.
-/

namespace RhythmBot

/-- Those of some senders who are not listed, each once, in the order in which they first appear. -/
def newcomers (listed senders : List String) : List String :=
  (senders.removeAll listed).eraseDups

@[simp] theorem newcomers_nil (listed : List String) : newcomers listed [] = [] := rfl

theorem newcomers_singleton (listed : List String) (sender : String) :
    newcomers listed [sender] = if sender ∈ listed then [] else [sender] := by
  unfold newcomers List.removeAll
  by_cases known : sender ∈ listed <;> simp [known, List.eraseDups_cons]

theorem mem_newcomers {listed senders : List String} {sender : String} :
    sender ∈ newcomers listed senders ↔ sender ∈ senders ∧ sender ∉ listed := by
  simp [newcomers, List.removeAll]

theorem nodup_eraseDups (senders : List String) : senders.eraseDups.Nodup := by
  match senders with
  | [] => exact .nil
  | sender :: later =>
    rw [List.eraseDups_cons, List.nodup_cons]
    refine ⟨by simp, nodup_eraseDups _⟩
termination_by senders.length
decreasing_by exact Nat.lt_succ_of_le (List.length_filter_le ..)

theorem nodup_append_newcomers {listed : List String} (distinct : listed.Nodup)
    (senders : List String) : (listed ++ newcomers listed senders).Nodup := by
  rw [List.nodup_append]
  refine ⟨distinct, nodup_eraseDups _, ?_⟩
  rintro sender known _ added rfl
  exact (mem_newcomers.1 added).2 known

/-- Of later senders, those are new who are neither listed nor new before. -/
theorem newcomers_append (listed first later : List String) :
    newcomers listed (first ++ later) =
      newcomers listed first ++ newcomers (listed ++ newcomers listed first) later := by
  have split : (first ++ later).removeAll listed =
      first.removeAll listed ++ later.removeAll listed := List.filter_append first later
  unfold newcomers
  rw [split, List.eraseDups_append]
  congr 2
  unfold List.removeAll
  rw [List.filter_filter]
  apply List.filter_congr
  intro sender _
  by_cases known : sender ∈ listed <;> by_cases earlier : sender ∈ first <;> simp [known, earlier]

theorem Books.membersOf_showing (books : Books) (origin : Origin) (beatmapId room : String) :
    (books.showing origin beatmapId).chats.membersOf room = books.chats.membersOf room := by
  unfold Books.showing
  split <;> rfl

/-- The sender of a message joins the members of its room, unless already there. -/
theorem State.membersOf_seen (state : State) (origin : Origin) (room : String) :
    (state.seen origin).chats.membersOf room =
      state.chats.membersOf room ++
        newcomers (state.chats.membersOf room)
          (if origin.room = some room then [origin.sender] else []) := by
  unfold seen
  cases place : origin.room with
  | none => simp
  | some other =>
    have joined := Store.ChatData.membersOf_addMember state.chats.data other origin.sender room
    by_cases here : other = room
    · subst here
      rw [if_pos rfl] at joined ⊢
      rw [newcomers_singleton]
      refine joined.trans ?_
      change (if (state.chats.membersOf other).contains origin.sender then
        state.chats.membersOf other else state.chats.membersOf other ++ [origin.sender]) = _
      by_cases known : origin.sender ∈ state.chats.membersOf other
      · rw [if_pos (List.contains_iff_mem.2 known), if_pos known, List.append_nil]
      · rw [if_neg (mt List.contains_iff_mem.1 known), if_neg known]
    · have elsewhere : ¬ some other = some room := fun same => here (Option.some.inj same)
      rw [if_neg (Ne.symm here)] at joined
      rw [if_neg elsewhere, newcomers_nil, List.append_nil]
      exact joined

theorem State.sender_mem_membersOf_seen (state : State) {origin : Origin} {room : String}
    (place : origin.room = some room) :
    origin.sender ∈ (state.seen origin).chats.membersOf room := by
  rw [membersOf_seen, if_pos place, List.mem_append, mem_newcomers]
  by_cases known : origin.sender ∈ state.chats.membersOf room
  · exact .inl known
  · exact .inr ⟨List.mem_cons_self, known⟩

/-- No command changes the members of a room. -/
theorem Answer.Ending.membersOf_eq {context : Context} {before after : Books} {command : Command}
    {outcome : Outcome Reply} (ending : Ending context before command outcome after)
    (fresh : before.calls = []) (room : String) :
    after.chats.membersOf room = before.chats.membersOf room := by
  rcases ending.play? fresh with ⟨play, _, chats⟩ | ⟨_, chats⟩
  · rw [chats, Books.membersOf_showing]
  · rw [chats]

namespace Session

variable {session : Session} {world : World} {state : State} {message : Message} {turn : Turn}

/-- The sender of an event who counts as a member of a room: that of a message there which leads to a
command of some server. What the world answers plays no part. -/
def speaker? (session : Session) (room : String) : Event → Option String
  | .message _ message =>
    match session.route message.body with
    | .invocation _ =>
      if message.origin.room = some room then some message.origin.sender else none
    | _ => none
  | .snapshot _ _ => none

def speakers (session : Session) (room : String) (events : List Event) : List String :=
  events.filterMap (session.speaker? room)

theorem Handled.membersOf (turned : Handled session world state message turn) (room : String) :
    turn.state.chats.membersOf room =
      state.chats.membersOf room ++
        newcomers (state.chats.membersOf room)
          (session.speaker? room (.message world message)).toList := by
  cases turned with
  | ignored routed | unknown routed =>
    simp only [speaker?, routed, Option.toList_none, newcomers_nil, List.append_nil]
  | unresolved routed _ =>
    simp only [speaker?, routed, State.membersOf_seen]
    split <;> rfl
  | @answered invocation _ _ after routed _ ending =>
    change after.chats.membersOf room = _
    rw [ending.membersOf_eq rfl]
    refine (State.membersOf_seen state message.origin room).trans ?_
    simp only [speaker?, routed]
    split <;> rfl

theorem step_membersOf (session : Session) (state : State) (event : Event) (room : String) :
    (session.step state event).chats.membersOf room =
      state.chats.membersOf room ++
        newcomers (state.chats.membersOf room) (session.speaker? room event).toList := by
  cases event with
  | message world message => exact (session.handled world state message).membersOf room
  | snapshot players chats =>
    rw [speaker?, Option.toList_none, newcomers_nil, List.append_nil]
    rfl

/-- After a run, the members of a room are the initial ones and then the new ones among its speakers.
-/
theorem run_membersOf (session : Session) (state : State) (events : List Event) (room : String) :
    (session.run state events).chats.membersOf room =
      state.chats.membersOf room ++
        newcomers (state.chats.membersOf room) (session.speakers room events) := by
  induction events generalizing state with
  | nil => exact (List.append_nil _).symm
  | cons event later ih =>
    have spoken : session.speakers room (event :: later) =
        (session.speaker? room event).toList ++ session.speakers room later := by
      unfold speakers
      cases found : session.speaker? room event with
      | none => rw [List.filterMap_cons_none found, Option.toList_none, List.nil_append]
      | some sender =>
        rw [List.filterMap_cons_some found, Option.toList_some, List.singleton_append]
    rw [run, ih, step_membersOf, spoken, newcomers_append, List.append_assoc]

/-- How the members of a room gather in a run. -/
structure Gathers (session : Session) (room : String) (start : State) (events : List Event) :
    Prop where
  /-- Behind the initial members come the senders of messages in the room that led to a command of
  some server, each where it first appeared. -/
  members : (session.run start events).chats.membersOf room =
    start.chats.membersOf room ++
      newcomers (start.chats.membersOf room) (session.speakers room events)
  /-- Once listed, members keep their places. -/
  kept : ∀ earlier later, events = earlier ++ later →
    (session.run start earlier).chats.membersOf room <+:
      (session.run start events).chats.membersOf room
  /-- No member is listed twice unless one was at the start. -/
  distinct : (start.chats.membersOf room).Nodup →
    ((session.run start events).chats.membersOf room).Nodup
  /-- A command runs with the sender of its message among the members, and leaves them as they are. -/
  present : ∀ earlier world message later invocation context,
    events = earlier ++ .message world message :: later →
    message.origin.room = some room →
    session.route message.body = .invocation invocation →
    let state := session.run start earlier
    session.contextFor world state message.origin invocation = .ok context →
    let books := (state.seen message.origin).books invocation.position
    let ending := (Answer.ofCommand invocation.command).run context books
    message.origin.sender ∈ books.chats.membersOf room ∧
      ending.2.chats.membersOf room = books.chats.membersOf room ∧
      session.handle world state message =
        ⟨some ((session.replyTo invocation.server ending.1).tag invocation.server.name),
          ending.2.calls, (state.seen message.origin).taking invocation.position ending.2⟩

/-- In every run, whatever the answers of the world, the members of a room are the initial ones and
then, each once, the senders of the messages there that led to a command. -/
theorem run_gathers (session : Session) (room : String) (start : State) (events : List Event) :
    session.Gathers room start events := by
  refine ⟨session.run_membersOf start events room, ?_, ?_, ?_⟩
  · rintro earlier later rfl
    rw [run_append, run_membersOf session (session.run start earlier)]
    exact List.prefix_append _ _
  · intro distinct
    rw [run_membersOf]
    exact nodup_append_newcomers distinct _
  · intro earlier world message later invocation context split place routed state prepared books
      ending
    have ended := Answer.ending context books invocation.command
    refine ⟨state.sender_mem_membersOf_seen place, ended.membersOf_eq rfl room, ?_⟩
    unfold handle
    simp only [routed, dispatch_eq, prepared]
    rfl

/-- Ann's command fails in the server, and Bob has no account: both are members. Who is ignored, asks
for an unknown command or writes a direct message is not. -/
theorem run_gathers_failing :
    let server : Server := .sample ["lookup_by_name", "top_by_name"] false rfl
    let session := single server
    let broken : World := { World.lonely "7" "Seven" with
      remote position :=
        { (World.lonely "7" "Seven").remote position with user _ _ := .error .panic } }
    let say (body : String) (room : Option String) (sender : String) : Event :=
      .message broken ⟨body, ⟨room, sender, none⟩⟩
    let start : State := ⟨fun _ => .inMemory, .inMemory⟩
    let events :=
      [say "hello" (some "5") "cat", say "!ex user Seven" (some "5") "ann",
        say "!ex dance" (some "5") "dan", say "!ex help" none "eve", say "!ex user" (some "5") "bob",
        say "!ex help" (some "5") "ann"]
    (session.run start events).chats.membersOf "5" = ["ann", "bob"] ∧
      session.Gathers "5" start events := by
  intro server session broken say start events
  exact ⟨by decide, run_gathers session "5" start events⟩

end Session

end RhythmBot
