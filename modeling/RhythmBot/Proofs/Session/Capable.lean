import RhythmBot.Http.Drawing
import RhythmBot.Proofs.Answer.Permitted
import RhythmBot.Proofs.Answer.Wording
import RhythmBot.Proofs.Session.Routing
import RhythmBot.Proofs.Session.Turn
/-!
Sessions keep to what their servers can do. Main statement: every call of a turn is one that the
capabilities of its server have, and no reply says that a request is unsupported unless a call was
answered so.
-/

namespace RhythmBot.Session

def worded (session : Session) (catalog : Catalog) : Session :=
  { session with catalog := catalog }

variable {session : Session} {world : World} {state : State} {origin : Origin} {body : String}
  {invocation : Invocation} {context : Context} {catalog : Catalog}

theorem reference_fits_of_contextFor
    (prepared : session.contextFor world state origin invocation = .ok context)
    (player : Reference) (known : context.reference = some player) :
    player.Fits context.server.capabilities := by
  obtain ⟨reference, resolved, rfl⟩ := contextFor_eq_ok prepared
  have typed : reference = some player := known
  subst typed
  unfold Session.player at resolved
  split at resolved
  · cases identified : Identity.resolve invocation.server.capabilities
      (state.players invocation.position) origin
      (Arguments.parse invocation.command.takesMods invocation.tokens) with
    | error failure =>
      rw [identified] at resolved
      cases resolved
    | ok reference =>
      rw [identified] at resolved
      cases resolved
      exact Identity.resolve_fits identified
  · cases resolved

theorem offered_of_contextFor (routed : session.route body = .invocation invocation)
    (prepared : session.contextFor world state origin invocation = .ok context) :
    invocation.command.isOffered context.server.capabilities context.server.renders = true := by
  obtain ⟨_, offered⟩ := invocation_of_route routed
  obtain ⟨_, _, rfl⟩ := contextFor_eq_ok prepared
  exact (List.mem_filter.1 offered).2

theorem fit_of_contextFor (routed : session.route body = .invocation invocation)
    (drawn : ∀ server ∈ session.servers.values, server.renders = world.renderer.isSome)
    (prepared : session.contextFor world state origin invocation = .ok context) :
    context.Fit invocation.command := by
  refine ⟨offered_of_contextFor routed prepared, ?_, reference_fits_of_contextFor prepared⟩
  obtain ⟨found, _⟩ := invocation_of_route routed
  obtain ⟨_, _, rfl⟩ := contextFor_eq_ok prepared
  exact drawn _ (List.mem_of_getElem? found)

theorem resolutionText_worded (agree : Catalog.AgreeBut "unsupported" catalog session.catalog)
    (server : Server) (failure : ResolutionFailure) :
    (session.worded catalog).resolutionText server failure =
      session.resolutionText server failure :=
  agree failure.key (by cases failure <;> decide) _

theorem failureText_worded (agree : Catalog.AgreeBut "unsupported" catalog session.catalog)
    (server : Server) {failure : Failure}
    (supported : ∀ operation, failure ≠ .remote (.unsupported operation)) :
    (session.worded catalog).failureText server failure = session.failureText server failure := by
  cases failure with
  | resolution failure => exact resolutionText_worded agree server failure
  | remote error =>
    cases error with
    | notFound => exact agree "not_found" (by decide) []
    | unsupported operation => exact absurd rfl (supported operation)
    | http fault => exact agree "failure" (by decide) []
  | save | other _ | panic => exact agree "failure" (by decide) []

theorem route_worded (agree : Catalog.AgreeBut "unsupported" catalog session.catalog)
    (body : String) : (session.worded catalog).route body = session.route body := by
  have unknown : ∀ server serverAlias command,
      (session.worded catalog).unknownCommandText server serverAlias command =
        session.unknownCommandText server serverAlias command := by
    intro server serverAlias command
    exact congrArg (Reply.tagged server.name) (agree "unknown_command" (by decide) _)
  unfold route
  simp only [unknown]
  rfl

theorem contextFor_worded :
    (session.worded catalog).contextFor world state origin invocation =
      (session.contextFor world state origin invocation).map (·.worded catalog) := by
  unfold contextFor
  simp only
  cases player invocation (state.players invocation.position) origin
    (Arguments.parse invocation.command.takesMods invocation.tokens) with
  | error failure => rfl
  | ok reference => rfl

/-- The reply does not depend on the text that refuses a request, if the command that is invoked
does not fail as unsupported. -/
theorem reply_worded (agree : Catalog.AgreeBut "unsupported" catalog session.catalog)
    (drawn : ∀ server ∈ session.servers.values, server.renders = world.renderer.isSome)
    {message : Message}
    (supported : ∀ invocation context after operation,
      session.route message.body = .invocation invocation →
      session.contextFor world state message.origin invocation = .ok context →
      (Answer.ofCommand invocation.command).run context
        ((state.seen message.origin).books invocation.position) ≠
          (.error (.remote (.unsupported operation)), after)) :
    ((session.worded catalog).handle world state message).reply =
      (session.handle world state message).reply := by
  unfold handle
  rw [route_worded agree]
  cases routed : session.route message.body with
  | ignored => rfl
  | unknownCommand text => rfl
  | invocation invocation =>
    simp only [dispatch_eq, contextFor_worded]
    cases prepared : session.contextFor world state message.origin invocation with
    | error failure =>
      simp only [Except.map, resolutionText_worded agree]
    | ok context =>
      have fit := fit_of_contextFor routed drawn prepared
      have texts : context.catalog = session.catalog := by
        obtain ⟨reference, _, rfl⟩ := contextFor_eq_ok prepared
        rfl
      have rendered : invocation.command = .render → context.renderer.isSome = true := by
        intro render
        have offered := fit.offered
        rw [render] at offered
        rw [← fit.renders]
        exact (Bool.and_eq_true_iff.1 offered).2
      have same := Answer.ofCommand_indifferent (texts ▸ agree) rendered
        ((state.seen message.origin).books invocation.position)
      simp only [Except.map, same]
      rcases ran : (Answer.ofCommand invocation.command).run context
        ((state.seen message.origin).books invocation.position) with ⟨failure | reply, after⟩
      · have answered : ∀ operation, failure ≠ .remote (.unsupported operation) := by
          intro operation unsupported
          rw [unsupported] at ran
          exact supported invocation context after operation routed prepared ran
        simp only [replyTo, failureText_worded agree invocation.server answered]
      · rfl

/-- A server on the web refuses no call that its capabilities have. -/
theorem call_supported (service : Http.Service) (network : Http.Network)
    (renderer : Option Renderer) {call : Call}
    (allowed : Http.allows service.capabilities call = true) (operation : String) :
    call.failure? (service.remote network) renderer ≠ some (.remote (.unsupported operation)) := by
  have answered : ∀ {α : Type} (decode : Json → Option α),
      failureOf? (service.call network decode call) ≠ some (.remote (.unsupported operation)) := by
    intro α decode
    unfold Http.Service.call
    rw [allowed]
    simp only [Bool.not_true, Bool.false_eq_true, if_false]
    split
    · rename_i fault _
      unfold Http.Service.failureOf
      split <;> simp [failureOf?]
    · split <;> simp [failureOf?]
  cases call with
  | user query mode => exact answered (Http.Answers.record? mode)
  | top query mode limit => exact answered Http.Answers.scores?
  | recent query mode => exact answered Http.Answers.scores?
  | score scoreId mode => exact answered Http.Answers.score?
  | leaderboard beatmapId players mode mods => exact answered Http.Answers.entries?
  | render score mode => cases allowed

theorem render_supported (remote : Remote) (address : String) (network : Http.Network) (score : Score)
    (mode : Mode) (operation : String) :
    (Call.render score mode).failure? remote (some (Http.renderer address network)) ≠
      some (.remote (.unsupported operation)) := by
  simp only [Call.failure?, Option.bind_some, Http.renderer]
  split <;> simp [failureOf?]

/-- A turn keeps to what the server of its message can do. -/
structure Capable (session : Session) (world : World) (state : State) (message : Message) :
    Prop where
  /-- The server is asked for what its capabilities have, and the renderer only if there is one. -/
  calls : ∀ call ∈ (session.handle world state message).calls, ∃ invocation,
    session.route message.body = .invocation invocation ∧
      (Http.allows invocation.server.capabilities call = true ∨
        world.renderer.isSome = true ∧ ∃ score mode, call = .render score mode)
  /-- Finding the way to ask about the player of the command fails only if the server, asked to look
  the player up, fails. -/
  queries : ∀ (invocation : Invocation) (context : Context) (operation : Operation)
      (player : Reference) (books after : Books) (failure : Failure),
    session.route message.body = .invocation invocation →
    session.contextFor world state message.origin invocation = .ok context →
    Answer.Concerns context invocation.command operation player →
    (Answer.playerQuery player operation).run context books = (.error failure, after) →
    ∃ query, Call.user query context.mode ∈ after.calls ∧
      (world.remote invocation.position).user query context.mode = .error failure
  /-- Unless a call was answered as unsupported, the reply does not depend on the text that says
  so. -/
  reply : ∀ catalog, Catalog.AgreeBut "unsupported" catalog session.catalog →
    (∀ invocation, session.route message.body = .invocation invocation →
      ∀ call ∈ (session.handle world state message).calls, ∀ operation,
        call.failure? (world.remote invocation.position) world.renderer ≠
          some (.remote (.unsupported operation))) →
    ((session.worded catalog).handle world state message).reply =
      (session.handle world state message).reply
  /-- A server on the web with the capabilities of the session's server, and a renderer on the web,
  answer none of these calls as unsupported. -/
  answers : ∀ (invocation : Invocation) (service : Http.Service) (network : Http.Network),
    session.route message.body = .invocation invocation →
    service.capabilities = invocation.server.capabilities →
    world.remote invocation.position = service.remote network →
    (∀ draw, world.renderer = some draw → ∃ address, draw = Http.renderer address network) →
    ∀ call ∈ (session.handle world state message).calls, ∀ operation,
      call.failure? (world.remote invocation.position) world.renderer ≠
        some (.remote (.unsupported operation))

theorem world_of_contextFor
    (prepared : session.contextFor world state origin invocation = .ok context) :
    context.server = invocation.server ∧ context.remote = world.remote invocation.position ∧
      context.renderer = world.renderer := by
  obtain ⟨reference, _, rfl⟩ := contextFor_eq_ok prepared
  exact ⟨rfl, rfl, rfl⟩

theorem handle_calls {message : Message}
    (routed : session.route message.body = .invocation invocation)
    (prepared : session.contextFor world state message.origin invocation = .ok context) :
    (session.handle world state message).calls =
      ((Answer.ofCommand invocation.command).run context
        ((state.seen message.origin).books invocation.position)).2.calls := by
  rw [handle_prepared routed prepared]

theorem Handled.permitted {message : Message} {turn : Turn}
    (turned : Handled session world state message turn)
    (drawn : ∀ server ∈ session.servers.values, server.renders = world.renderer.isSome)
    {call : Call} (made : call ∈ turn.calls) :
    ∃ invocation, session.route message.body = .invocation invocation ∧
      (Http.allows invocation.server.capabilities call = true ∨
        world.renderer.isSome = true ∧ ∃ score mode, call = .render score mode) := by
  cases turned with
  | ignored _ | unknown _ | unresolved _ _ => cases made
  | @answered invocation context _ _ routed prepared ending =>
    have fit := fit_of_contextFor routed drawn prepared
    have allowed := ending.callsPermitted fit call made
    rw [State.books_calls] at allowed
    obtain ⟨server, _, renderer⟩ := world_of_contextFor prepared
    refine ⟨invocation, routed, ?_⟩
    rw [← server, ← renderer]
    exact allowed.resolve_left List.not_mem_nil

/-- Where servers render exactly if there is a renderer, every turn keeps to what the server of its
message can do, whatever the state and the answers of the world. -/
theorem handle_capable (session : Session) (world : World) (state : State) (message : Message)
    (drawn : ∀ server ∈ session.servers.values, server.renders = world.renderer.isSome) :
    session.Capable world state message := by
  have permitted : ∀ call ∈ (session.handle world state message).calls, ∃ invocation,
      session.route message.body = .invocation invocation ∧
        (Http.allows invocation.server.capabilities call = true ∨
          world.renderer.isSome = true ∧ ∃ score mode, call = .render score mode) :=
    fun call made => (session.handled world state message).permitted drawn made
  refine ⟨permitted, ?_, ?_, ?_⟩
  · intro invocation context operation player books after failure routed prepared concerns ran
    have fit := fit_of_contextFor routed drawn prepared
    have asked := Answer.inquiry context books player operation
    rw [ran] at asked
    have lost := (asked.inquired_of_concerns fit concerns).lost failure rfl
    rw [(world_of_contextFor prepared).2.1] at lost
    exact lost
  · intro catalog agree supported
    apply reply_worded agree drawn
    intro invocation context after operation routed prepared ran
    have fit := fit_of_contextFor routed drawn prepared
    have ending := Answer.ending context ((state.seen message.origin).books invocation.position)
      invocation.command
    rw [ran] at ending
    obtain ⟨call, made, answered⟩ := ending.failure_answered fit
    obtain ⟨_, remote, renderer⟩ := world_of_contextFor prepared
    rw [remote, renderer] at answered
    refine supported invocation routed call ?_ operation answered
    rw [handle_calls routed prepared, ran]
    exact made
  · intro invocation service network routed same remote drawing call made operation
    obtain ⟨other, otherRouted, allowed⟩ := permitted call made
    rw [routed] at otherRouted
    cases otherRouted
    rcases allowed with allowed | ⟨present, score, mode, rfl⟩
    · rw [remote]
      exact call_supported service network world.renderer (same ▸ allowed) operation
    · obtain ⟨draw, there⟩ := Option.isSome_iff_exists.1 present
      obtain ⟨address, rfl⟩ := drawing draw there
      rw [there]
      exact render_supported _ address network score mode operation

/-- A profile is one call on a server that finds players by name. -/
theorem handle_capable_small :
    let server : Server := .sample ["lookup_by_name", "top_by_name"] false rfl
    let session := single server
    let state : State := ⟨fun _ => .inMemory, .inMemory⟩
    let message : Message := ⟨"!ex user Seven", ⟨none, "ann", none⟩⟩
    (session.handle (.lonely "7" "Seven") state message).calls.length = 1 ∧
      session.Capable (.lonely "7" "Seven") state message := by
  intro server session state message
  refine ⟨by decide, handle_capable session (.lonely "7" "Seven") state message ?_⟩
  intro other listed
  rw [List.mem_singleton.1 listed]
  rfl

end RhythmBot.Session
