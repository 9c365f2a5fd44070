import RhythmBot.Proofs.Session.Members
import RhythmBot.Proofs.Session.SamePlayer
/-!
Whom a typed command is about. Main statement: a player typed behind the mode is the same for every
state, sender and sender replied to; without one, the account of the sender replied to or else of the
sender decides alone; and a message whose player is not found calls no server and changes nothing but
who is a member of its room.
-/

namespace RhythmBot

def Invocation.rest (invocation : Invocation) : List String :=
  (Arguments.splitMode invocation.tokens).2

structure State.Joined (origin : Origin) (before after : State) : Prop where
  players : after.players = before.players
  file : after.chats.file = before.chats.file
  lastBeatmaps : after.chats.data.lastBeatmaps = before.chats.data.lastBeatmaps
  members : ∀ room, after.chats.membersOf room =
    before.chats.membersOf room ++
      newcomers (before.chats.membersOf room)
        (if origin.room = some room then [origin.sender] else [])

theorem State.joined_seen (state : State) (origin : Origin) :
    State.Joined origin state (state.seen origin) := by
  refine ⟨state.seen_players origin, ?_, ?_, state.membersOf_seen origin⟩
  · unfold seen
    split <;> rfl
  · unfold seen
    split <;> rfl

namespace Identity

variable {capabilities : Capabilities} {players : Store.Players} {origin : Origin}
  {arguments : Arguments} {failure : ResolutionFailure}

theorem linked_ne_error {sender : String} {otherwise : ResolutionFailure}
    (other : failure ≠ otherwise) : linked players sender otherwise ≠ .error failure := by
  unfold linked
  intro lost
  cases known : players.account? sender with
  | none =>
    rw [known] at lost
    exact other (Except.error.inj lost).symm
  | some account =>
    rw [known] at lost
    cases lost

/-- Only a typed id can be invalid. -/
theorem resolve_ne_invalidId
    (valid : ∀ failure, explicit? capabilities arguments ≠ some (.error failure)) :
    resolve capabilities players origin arguments ≠ .error .invalidId := by
  unfold resolve
  generalize explicit? capabilities arguments = typed at valid
  cases typed with
  | some outcome =>
    intro lost
    exact valid .invalidId (congrArg some lost)
  | none =>
    cases origin.replyTo with
    | none => exact linked_ne_error (by decide)
    | some other => exact linked_ne_error (by decide)

end Identity

namespace Session

variable {session : Session} {body : String} {invocation : Invocation}

/-- How the player of an invocation is found. -/
structure Resolves (session : Session) (body : String) (invocation : Invocation) : Prop where
  /-- Tokens behind the mode name the player, whatever is known and whoever sends them. -/
  typed : invocation.command.needsPlayer = true → invocation.rest ≠ [] → ∀ state origin,
    session.about? state ⟨body, origin⟩ =
      some (.ok (some (invocation.server.named (" ".intercalate invocation.rest))))
  /-- Without any, a reply is about the account of the sender replied to, whoever replies. -/
  replied : invocation.command.needsPlayer = true → invocation.rest = [] →
    ∀ state room sender other,
      session.about? state ⟨body, ⟨room, sender, some other⟩⟩ =
        match (state.players invocation.position).account? other with
        | some account => some (.ok (some (.linked account)))
        | none => some (.error .noIdentity)
  /-- What is no reply is about the account of the sender. -/
  own : invocation.command.needsPlayer = true → invocation.rest = [] →
    ∀ state room sender,
      session.about? state ⟨body, ⟨room, sender, none⟩⟩ =
        match (state.players invocation.position).account? sender with
        | some account => some (.ok (some (.linked account)))
        | none => some (.error .noLinkedAccount)
  /-- What is typed is never refused as an id, by commands that find their player later neither. -/
  valid : ∀ failure,
    Identity.explicit? invocation.server.capabilities
      (.parse invocation.command.takesMods invocation.tokens) ≠ some (.error failure)
  /-- With its player found, the command runs. -/
  found : ∀ world state origin reference,
    session.about? state ⟨body, origin⟩ = some (.ok reference) →
    ∃ context, session.contextFor world state origin invocation = .ok context ∧
      context.reference = reference ∧
      let ending := (Answer.ofCommand invocation.command).run context
        ((state.seen origin).books invocation.position)
      session.handle world state ⟨body, origin⟩ =
        ⟨some ((session.replyTo invocation.server ending.1).tag invocation.server.name),
          ending.2.calls, (state.seen origin).taking invocation.position ending.2⟩
  /-- Else nothing is asked, and only the sender joins the room. -/
  lost : ∀ world state origin failure,
    session.about? state ⟨body, origin⟩ = some (.error failure) →
    failure ≠ .invalidId ∧
      (session.handle world state ⟨body, origin⟩).calls = [] ∧
      State.Joined origin state (session.handle world state ⟨body, origin⟩).state

theorem isWord_of_route (routed : session.route body = .invocation invocation) :
    ∀ token ∈ invocation.tokens, Text.IsWord token := by
  have way := session.routed body
  rw [routed] at way
  cases way with
  | known read _ _ =>
    intro token listed
    apply CommandLine.isWord_of_read? read
    exact List.mem_append_right _ listed

theorem valid_of_route (routed : session.route body = .invocation invocation)
    (failure : ResolutionFailure) :
    Identity.explicit? invocation.server.capabilities
      (.parse invocation.command.takesMods invocation.tokens) ≠ some (.error failure) := by
  intro refused
  by_cases spoken :
      (Arguments.parse invocation.command.takesMods invocation.tokens).nickname = []
  · unfold Identity.explicit? Arguments.joined? at refused
    rw [spoken] at refused
    cases refused
  · rw [Identity.explicit?_words spoken] at refused
    · cases refused
    · intro token listed
      exact isWord_of_route routed token (Arguments.mem_of_mem_nickname listed)

theorem resolve_of_player {players : Store.Players} {origin : Origin} {arguments : Arguments}
    {failure : ResolutionFailure} (lost : player invocation players origin arguments = .error failure) :
    Identity.resolve invocation.server.capabilities players origin arguments = .error failure := by
  unfold player at lost
  split at lost
  · generalize Identity.resolve _ _ _ _ = resolved at lost ⊢
    cases resolved with
    | ok reference => cases lost
    | error other =>
      cases lost
      rfl
  · cases lost

/-- The player of a routed message is found by the tokens behind its mode, and without any by who is
replied to or sends it. -/
theorem handle_resolves (routed : session.route body = .invocation invocation) :
    session.Resolves body invocation := by
  have arguments : Arguments.ofTokens invocation.tokens =
      ⟨(Arguments.splitMode invocation.tokens).1, [], invocation.rest, invocation.rest⟩ := rfl
  refine ⟨?_, ?_, ?_, valid_of_route routed, ?_, ?_⟩
  · intro needed spoken state origin
    have isWord : ∀ token ∈ invocation.rest, Text.IsWord token := by
      intro token listed
      exact isWord_of_route routed token (Arguments.mem_of_mem_full listed)
    rw [about?_resolve routed needed, arguments, Identity.resolve_words spoken isWord]
    rfl
  · intro needed silent state room sender other
    rw [about?_resolve routed needed, arguments, silent, Identity.resolve_untyped]
    change some ((Identity.linked _ other _).map some) = _
    unfold Identity.linked
    cases (state.players invocation.position).account? other <;> rfl
  · intro needed silent state room sender
    rw [about?_resolve routed needed, arguments, silent, Identity.resolve_untyped]
    change some ((Identity.linked _ sender _).map some) = _
    unfold Identity.linked
    cases (state.players invocation.position).account? sender <;> rfl
  · intro world state origin reference found
    rw [about?_of_route routed, Option.some.injEq] at found
    have prepared := session.contextFor_of_player world found
    have led : session.route (Message.mk body origin).body = .invocation invocation := routed
    exact ⟨_, prepared, rfl, handle_prepared led prepared⟩
  · intro world state origin failure lost
    rw [about?_of_route routed, Option.some.injEq] at lost
    have led : session.route (Message.mk body origin).body = .invocation invocation := routed
    rw [handle_lost led (session.contextFor_of_lost world lost)]
    refine ⟨?_, rfl, state.joined_seen origin⟩
    rintro rfl
    exact Identity.resolve_ne_invalidId (valid_of_route routed) (resolve_of_player lost)

/-- The words behind the mode name the same player in a reply to Bob as in a message of his own, though
he has an account. -/
theorem handle_resolves_small :
    let server : Server := .sample ["lookup_by_name", "top_by_name"] false rfl
    let session := single server
    let body := "!ex user OSU Cool  taiko"
    let invocation : Invocation := ⟨0, server, .user, ["OSU", "Cool", "taiko"]⟩
    let linked : State :=
      ⟨fun _ => (Store.Players.inMemory.setAccount .succeeds "bob" ⟨"8", "Eight", none⟩).2,
        .inMemory⟩
    session.route body = .invocation invocation ∧ session.Resolves body invocation ∧
      ∀ origin ∈ [⟨none, "ann", some "bob"⟩, ⟨some "5", "bob", none⟩],
        session.about? linked ⟨body, origin⟩ = some (.ok (some (.nickname "Cool taiko"))) := by
  intro server session body invocation linked
  have routed : session.route "!ex user OSU Cool  taiko" =
      .invocation ⟨0, server, .user, ["OSU", "Cool", "taiko"]⟩ := rfl
  have resolves := handle_resolves routed
  exact ⟨routed, resolves, fun origin _ => resolves.typed rfl (by decide) linked origin⟩

end Session

end RhythmBot
