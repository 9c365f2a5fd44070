import RhythmBot.Http.Service
import RhythmBot.Proofs.Answer.Ending
/-!
The calls that commands make against what their server can do. Main statements: a command that is
offered asks only for what the capabilities of its server have, and finding the way to ask about a
player fails only where the server fails to look the player up.
-/

namespace RhythmBot

namespace Capabilities

variable {capabilities : Capabilities}

theorem validate_eq_ok :
    capabilities.validate = .ok () ↔
      (capabilities.lookupByName = true ∨ capabilities.lookupById = true) ∧
        (capabilities.topByName = true ∨ capabilities.recentByName = true →
          capabilities.lookupByName = true) ∧
        (capabilities.topById = true ∨ capabilities.recentById = true →
          capabilities.lookupById = true) := by
  unfold validate
  cases capabilities.lookupByName with
  | true => cases capabilities.lookupById <;> simp
  | false => cases capabilities.lookupById <;> simp

theorem lookupByName_of_byName (usable : capabilities.validate = .ok ()) {operation : Operation}
    (byName : capabilities.byName operation = true) : capabilities.lookupByName = true := by
  have plays := (validate_eq_ok.1 usable).2.1
  cases operation with
  | lookup => exact byName
  | top => exact plays (.inl byName)
  | recent => exact plays (.inr byName)

theorem supports_lookup (usable : capabilities.validate = .ok ()) :
    capabilities.supports .lookup = true :=
  Bool.or_eq_true_iff.2 (validate_eq_ok.1 usable).1

end Capabilities

/-- A player is typed in the form that the server prefers: by name where it finds players by name,
else by id. -/
def Reference.Fits (capabilities : Capabilities) : Reference → Prop
  | .linked _ => True
  | .nickname _ => capabilities.lookupByName = true
  | .id _ => capabilities.lookupByName = false

namespace Identity

variable {capabilities : Capabilities} {arguments : Arguments} {player : Reference}

theorem explicit?_fits (typed : explicit? capabilities arguments = some (.ok player)) :
    player.Fits capabilities := by
  unfold explicit? at typed
  obtain ⟨joined, _, found⟩ := Option.map_eq_some_iff.1 typed
  split at found
  · rename_i byName
    cases found
    exact byName
  · rename_i notByName
    split at found
    · cases found
    · cases found
      exact Bool.eq_false_iff.2 notByName

theorem linked_fits {players : Store.Players} {sender : String} {otherwise : ResolutionFailure}
    (found : linked players sender otherwise = .ok player) : player.Fits capabilities := by
  unfold linked at found
  split at found
  · cases found
    exact True.intro
  · cases found

theorem resolve_fits {players : Store.Players} {origin : Origin}
    (found : resolve capabilities players origin arguments = .ok player) :
    player.Fits capabilities := by
  unfold resolve at found
  split at found
  · rename_i typed explicit
    rw [found] at explicit
    exact explicit?_fits explicit
  · split at found
    · exact linked_fits found
    · exact linked_fits found

end Identity

def failureOf? {α : Type} : Outcome α → Option Failure
  | .ok _ => none
  | .error failure => some failure

def Call.failure? (remote : Remote) (renderer : Option Renderer) : Call → Option Failure
  | .user query mode => failureOf? (remote.user query mode)
  | .top query mode limit => failureOf? (remote.top query mode limit)
  | .recent query mode => failureOf? (remote.recent query mode)
  | .score scoreId mode => failureOf? (remote.score scoreId mode)
  | .leaderboard beatmapId players mode mods =>
    failureOf? (remote.leaderboard beatmapId players mode mods)
  | .render play mode => renderer.bind fun draw => failureOf? (draw play mode)

namespace Context

/-- What a command may call: the server for what its capabilities have, and the renderer if there is
one. -/
def Permits (context : Context) (call : Call) : Prop :=
  Http.allows context.server.capabilities call = true ∨
    context.renderer.isSome = true ∧ ∃ score mode, call = .render score mode

/-- A context is fit for a command: its server offers the command and renders as the world does, and
the player that the command is about is given in a form that the server has. -/
structure Fit (context : Context) (command : Command) : Prop where
  offered : command.isOffered context.server.capabilities context.server.renders = true
  renders : context.server.renders = context.renderer.isSome
  reference : ∀ player, context.reference = some player →
    player.Fits context.server.capabilities

end Context

namespace Answer

variable {context : Context} {operation : Operation} {player : Reference} {before after : Books}
  {command : Command}

def CallsPermitted (context : Context) (before after : Books) : Prop :=
  ∀ call ∈ after.calls, call ∈ before.calls ∨ context.Permits call

theorem CallsPermitted.refl (context : Context) (books : Books) :
    CallsPermitted context books books := fun _ member => .inl member

theorem CallsPermitted.noting {middle : Books} (earlier : CallsPermitted context before middle)
    {call : Call} (permitted : context.Permits call) :
    CallsPermitted context before (middle.noting call) := by
  intro other member
  rw [Books.noting_calls, List.mem_append, List.mem_singleton] at member
  rcases member with made | rfl
  · exact earlier other made
  · exact .inr permitted

theorem CallsPermitted.showing {middle : Books} (earlier : CallsPermitted context before middle)
    (origin : Origin) (beatmapId : String) :
    CallsPermitted context before (middle.showing origin beatmapId) := by
  intro other member
  rw [Books.showing_calls] at member
  exact earlier other member

theorem Concerns.fits (concerns : Concerns context command operation player)
    (offered : command.isOffered context.server.capabilities context.server.renders = true)
    (reference : ∀ player, context.reference = some player →
      player.Fits context.server.capabilities) :
    player.Fits context.server.capabilities ∧
      context.server.capabilities.supports operation = true := by
  cases concerns with
  | user found =>
    exact ⟨reference player found, Capabilities.supports_lookup context.server.usable⟩
  | top found => exact ⟨reference player found, offered⟩
  | recent found => exact ⟨reference player found, offered⟩
  | set typed =>
    exact ⟨Identity.explicit?_fits typed, Capabilities.supports_lookup context.server.usable⟩

/-- What comes of finding the way to ask about a player that fits: permitted calls, then a query that
the capabilities have or the failure of a look-up. -/
structure Inquired (context : Context) (operation : Operation) (before : Books)
    (result : Outcome PlayerQuery) (after : Books) : Prop where
  calls : CallsPermitted context before after
  found : ∀ query, result = .ok query →
    Http.allowsQuery context.server.capabilities operation query = true
  lost : ∀ failure, result = .error failure →
    ∃ query, Call.user query context.mode ∈ after.calls ∧
      context.remote.user query context.mode = .error failure

theorem Inquired.direct {query : PlayerQuery}
    (allowed : Http.allowsQuery context.server.capabilities operation query = true) :
    Inquired context operation before (.ok query) before where
  calls := .refl context before
  found := by
    rintro _ ⟨⟩
    exact allowed
  lost := by
    rintro _ ⟨⟩

theorem Inquired.refused {result : Outcome PlayerQuery}
    (unsupported : context.server.capabilities.byName operation = false ∧
      context.server.capabilities.byId operation = false)
    (supported : context.server.capabilities.supports operation = true) :
    Inquired context operation before result after := by
  unfold Capabilities.supports at supported
  rw [unsupported.1, unsupported.2] at supported
  cases supported

/-- The way to ask about a player that fits is never refused. -/
theorem Inquiry.inquired {result : Outcome PlayerQuery}
    (asked : Inquiry context operation before player result after)
    (fits : player.Fits context.server.capabilities)
    (supported : context.server.capabilities.supports operation = true) :
    Inquired context operation before result after := by
  cases asked with
  | linkedId byId => exact .direct byId
  | linkedName _ byName => exact .direct byName
  | name byName => exact .direct byName
  | id byId => exact .direct byId
  | nameFound _ byId lookup answered =>
    refine ⟨.noting (.refl context before) (.inl lookup), ?_, ?_⟩
    · rintro _ ⟨⟩
      exact byId
    · rintro _ ⟨⟩
  | @nameLost text failure _ _ lookup answered =>
    refine ⟨.noting (.refl context before) (.inl lookup), ?_, ?_⟩
    · rintro _ ⟨⟩
    · rintro _ ⟨⟩
      exact ⟨.name text, by simp, answered⟩
  | nameRefused byName translated =>
    have lookup : context.server.capabilities.lookupByName = true := fits
    rw [lookup, Bool.and_true] at translated
    exact .refused ⟨byName, translated⟩ supported
  -- An id is typed only where players are not found by name, and then no plays are by name either.
  | idFound _ byName _ _ | idLost _ byName _ _ =>
    have lookup := Capabilities.lookupByName_of_byName context.server.usable byName
    have none : context.server.capabilities.lookupByName = false := fits
    rw [none] at lookup
    cases lookup
  | idRefused byId _ =>
    cases byName : context.server.capabilities.byName operation with
    | false => exact .refused ⟨byName, byId⟩ supported
    | true =>
      have lookup := Capabilities.lookupByName_of_byName context.server.usable byName
      have none : context.server.capabilities.lookupByName = false := fits
      rw [none] at lookup
      cases lookup
  | linkedRefused byId byName => exact .refused ⟨byName, byId⟩ supported

theorem Inquiry.inquired_of_concerns {result : Outcome PlayerQuery}
    (asked : Inquiry context operation before player result after) (fit : context.Fit command)
    (concerns : Concerns context command operation player) :
    Inquired context operation before result after := by
  obtain ⟨fits, supported⟩ := concerns.fits fit.offered fit.reference
  exact asked.inquired fits supported

/-- A command makes permitted calls only. -/
theorem Ending.callsPermitted {outcome : Outcome Reply}
    (ending : Ending context before command outcome after) (fit : context.Fit command) :
    CallsPermitted context before after := by
  cases ending with
  | queryFailed concerns asked => exact (asked.inquired_of_concerns fit concerns).calls
  | userFailed concerns asked _ | userShown concerns asked _ | setFailed concerns asked _
  | setTaken concerns asked _ _ | setUnsaved concerns asked _ _ _
  | setDone concerns asked _ _ _ =>
    have inquired := asked.inquired_of_concerns fit concerns
    exact inquired.calls.noting (.inl (inquired.found _ rfl))
  | topFailed concerns asked _ | topEmpty concerns asked _ | topShown concerns asked _ _ =>
    have inquired := asked.inquired_of_concerns fit concerns
    exact inquired.calls.noting (.inl (inquired.found _ rfl))
  | recentFailed concerns asked _ | recentEmpty concerns asked _ =>
    have inquired := asked.inquired_of_concerns fit concerns
    exact inquired.calls.noting (.inl (inquired.found _ rfl))
  | recentShown concerns asked _ =>
    have inquired := asked.inquired_of_concerns fit concerns
    have allowed : context.Permits (.recent _ context.mode) := .inl (inquired.found _ rfl)
    exact (inquired.calls.noting allowed).showing _ _
  | boardFailed _ _ _ _ | boardEmpty _ _ _ _ _ | boardShown _ _ _ _ _ =>
    exact .noting (.refl context before) (.inl fit.offered)
  | scoreFailed _ _ => exact .noting (.refl context before) (.inl fit.offered)
  | scoreShown _ _ =>
    have allowed : ∀ scoreId, context.Permits (.score scoreId context.mode) :=
      fun _ => .inl fit.offered
    exact (CallsPermitted.noting (.refl context before) (allowed _)).showing _ _
  | renderFailed _ _ _ =>
    have offered := Bool.and_eq_true_iff.1 fit.offered
    exact .noting (.refl context before) (.inl offered.1)
  | renderUndrawn drawn _ _ _ | renderDone drawn _ _ _ =>
    have offered := Bool.and_eq_true_iff.1 fit.offered
    have allowed : ∀ scoreId, context.Permits (.score scoreId context.mode) :=
      fun _ => .inl offered.1
    have rendered : context.renderer.isSome = true := by
      rw [drawn]
      rfl
    exact ((CallsPermitted.noting (.refl context before) (allowed _)).showing _ _).noting
      (.inr ⟨rendered, _, _, rfl⟩)
  | _ => exact .refl context before

/-- A command ends with a failure of the server only if a call was answered with it. -/
theorem Ending.failure_answered {error : RemoteError}
    (ending : Ending context before command (.error (.remote error)) after)
    (fit : context.Fit command) :
    ∃ call ∈ after.calls,
      call.failure? context.remote context.renderer = some (.remote error) := by
  cases ending with
  | queryFailed concerns asked =>
    obtain ⟨query, made, answered⟩ := (asked.inquired_of_concerns fit concerns).lost _ rfl
    refine ⟨_, made, ?_⟩
    rw [Call.failure?, answered]
    rfl
  | userFailed _ _ answered | setFailed _ _ answered | topFailed _ _ answered
  | recentFailed _ _ answered | boardFailed _ _ _ answered | scoreFailed _ answered
  | renderFailed _ _ answered =>
    refine ⟨_, by rw [Books.noting_calls]; exact List.mem_append_right _ List.mem_cons_self, ?_⟩
    rw [Call.failure?, answered]
    rfl
  | renderUndrawn drawn _ _ answered =>
    refine ⟨_, by rw [Books.noting_calls]; exact List.mem_append_right _ List.mem_cons_self, ?_⟩
    rw [Call.failure?, drawn, Option.bind_some, answered]
    rfl

end Answer

end RhythmBot
