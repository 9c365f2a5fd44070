import RhythmBot.Proofs.Answer.Permitted
/-!
Which calls a command makes. Main statements: a command about a player asks for what it wants in the
form at hand, or looks the player up first; and no command makes more than two calls, makes one in
another mode than its own, or goes on after one that failed.
-/

namespace RhythmBot

def Operation.command : Operation → Command
  | .lookup => .user
  | .top => .top
  | .recent => .recent

def Operation.call (mode : Mode) : Operation → PlayerQuery → Call
  | .lookup, query => .user query mode
  | .top, query => .top query mode Answer.topLimit
  | .recent, query => .recent query mode

@[simp] theorem Operation.call_mode (operation : Operation) (mode : Mode) (query : PlayerQuery) :
    (operation.call mode query).mode = mode := by
  cases operation <;> rfl

def Reference.query? : Reference → Option PlayerQuery
  | .linked _ => none
  | .nickname text => some (.name text)
  | .id text => some (.id text)

def Account.query (account : Account) (byId : Bool) : PlayerQuery :=
  if byId then .id account.remoteId else .name account.nickname

def PlayerQuery.other (record : Record) : PlayerQuery → PlayerQuery
  | .name _ => .id record.playerId
  | .id _ => .name record.nickname

/-- The calls about a player for an operation. The last two cases are those where the operation has
not the form that the reference carries: the player is looked up, and the operation is done in the
other form if there is a record. -/
inductive Asks (capabilities : Capabilities) (remote : Remote) (mode : Mode)
    (operation : Operation) : Reference → List Call → Prop
  | account {account : Account} :
      Asks capabilities remote mode operation (.linked account)
        [operation.call mode (account.query (capabilities.byId operation))]
  | own {player : Reference} {query : PlayerQuery} :
      player.query? = some query →
      Http.allowsQuery capabilities operation query = true →
      Asks capabilities remote mode operation player [operation.call mode query]
  | lost {player : Reference} {query : PlayerQuery} {failure : Failure} :
      player.query? = some query →
      Http.allowsQuery capabilities operation query = false →
      remote.user query mode = .error failure →
      Asks capabilities remote mode operation player [.user query mode]
  | found {player : Reference} {query : PlayerQuery} {record : Record} :
      player.query? = some query →
      Http.allowsQuery capabilities operation query = false →
      remote.user query mode = .ok record →
      Asks capabilities remote mode operation player
        [.user query mode, operation.call mode (query.other record)]

/-- No more than two calls, all in one mode, and each but the last answered without a failure. -/
structure Concise (remote : Remote) (renderer : Option Renderer) (mode : Mode)
    (calls : List Call) : Prop where
  few : calls.length ≤ 2
  mode : ∀ call ∈ calls, call.mode = mode
  answered : ∀ call ∈ calls.dropLast, call.failure? remote renderer = none

namespace Concise

variable {remote : Remote} {renderer : Option Renderer} {mode : Mode}

theorem nil : Concise remote renderer mode [] :=
  ⟨Nat.zero_le 2, List.forall_mem_nil _, List.forall_mem_nil _⟩

theorem single {call : Call} (same : call.mode = mode) : Concise remote renderer mode [call] := by
  refine ⟨Nat.le_add_left 1 1, ?_, List.forall_mem_nil _⟩
  intro other made
  rw [List.mem_singleton.1 made, same]

theorem pair {first second : Call} (firstMode : first.mode = mode) (secondMode : second.mode = mode)
    (answered : first.failure? remote renderer = none) :
    Concise remote renderer mode [first, second] := by
  refine ⟨Nat.le_refl 2, ?_, ?_⟩
  · intro call made
    rcases List.mem_cons.1 made with rfl | last
    · exact firstMode
    · rw [List.mem_singleton.1 last, secondMode]
  · intro call made
    rw [List.mem_singleton.1 made, answered]

end Concise

namespace Asks

variable {capabilities : Capabilities} {remote : Remote} {mode : Mode} {operation : Operation}
  {player : Reference} {calls : List Call}

theorem concise (asks : Asks capabilities remote mode operation player calls)
    (renderer : Option Renderer) : Concise remote renderer mode calls := by
  cases asks with
  | account | own _ _ => exact .single (operation.call_mode mode _)
  | lost _ _ _ => exact .single rfl
  | found _ _ answered =>
    refine .pair rfl (operation.call_mode mode _) ?_
    rw [Call.failure?, answered]
    rfl

theorem linked {account : Account}
    (asks : Asks capabilities remote mode operation (.linked account) calls) :
    calls = [operation.call mode (account.query (capabilities.byId operation))] := by
  cases asks with
  | account => rfl
  | own carried _ | lost carried _ _ | found carried _ _ => cases carried

theorem lookup (asks : Asks capabilities remote mode .lookup player calls)
    (fits : player.Fits capabilities) (supported : capabilities.supports .lookup = true) :
    ∃ query, calls = [.user query mode] := by
  have direct : ∀ query, player.query? = some query →
      Http.allowsQuery capabilities .lookup query = true := by
    intro query carried
    cases player with
    | linked account => cases carried
    | nickname text =>
      cases carried
      exact fits
    | id text =>
      cases carried
      have unnamed : capabilities.lookupByName = false := fits
      exact (Bool.or_eq_true_iff.1 supported).resolve_left (Bool.eq_false_iff.1 unnamed)
  cases asks with
  | account => exact ⟨_, rfl⟩
  | own _ _ => exact ⟨_, rfl⟩
  | lost carried refused _ | found carried refused _ =>
    rw [direct _ carried] at refused
    cases refused

end Asks

namespace Answer

variable {context : Context} {operation : Operation} {player : Reference} {before after : Books}
  {command : Command} {outcome : Outcome Reply}

theorem Concerns.unique (concerns : Concerns context command operation player)
    {otherOperation : Operation} {otherPlayer : Reference}
    (other : Concerns context command otherOperation otherPlayer) :
    otherOperation = operation ∧ otherPlayer = player := by
  cases concerns with
  | user found =>
    cases other with
    | user otherFound => exact ⟨rfl, Option.some.inj (otherFound.symm.trans found)⟩
  | top found =>
    cases other with
    | top otherFound => exact ⟨rfl, Option.some.inj (otherFound.symm.trans found)⟩
  | recent found =>
    cases other with
    | recent otherFound => exact ⟨rfl, Option.some.inj (otherFound.symm.trans found)⟩
  | set typed =>
    cases other with
    | set otherTyped =>
      exact ⟨rfl, Except.ok.inj (Option.some.inj (otherTyped.symm.trans typed))⟩

theorem Ending.calls_of_concerns (ending : Ending context before command outcome after)
    (concerns : Concerns context command operation player) :
    ∃ (result : Outcome PlayerQuery) (middle : Books),
      Inquiry context operation before player result middle ∧
        after.calls =
          middle.calls ++ (result.toOption.map (operation.call context.mode)).toList := by
  cases ending with
  | playerless needed missing =>
    cases concerns with
    | user found | top found | recent found =>
      rw [missing] at found
      cases found
    | set _ => cases needed
  | queryFailed others asked =>
    obtain ⟨rfl, rfl⟩ := concerns.unique others
    exact ⟨_, _, asked, (List.append_nil _).symm⟩
  | userFailed others asked _ | userShown others asked _ | topFailed others asked _
  | topEmpty others asked _ | topShown others asked _ _ | recentFailed others asked _
  | recentEmpty others asked _ | setFailed others asked _ | setTaken others asked _ _
  | setUnsaved others asked _ _ _ | setDone others asked _ _ _ =>
    obtain ⟨rfl, rfl⟩ := concerns.unique others
    exact ⟨_, _, asked, rfl⟩
  | recentShown others asked _ =>
    obtain ⟨rfl, rfl⟩ := concerns.unique others
    exact ⟨_, _, asked, Books.showing_calls ..⟩
  | setUnnamed missing | setUnresolved missing =>
    cases concerns with
    | set typed =>
      rw [missing] at typed
      cases typed
  | _ => cases concerns

/-- Where the operation is supported and the player fits, the query that is found and the calls to
find it are as they should be. -/
theorem Inquiry.asks {result : Outcome PlayerQuery}
    (asked : Inquiry context operation before player result after) (uncalled : before.calls = [])
    (fits : player.Fits context.server.capabilities)
    (supported : context.server.capabilities.supports operation = true) :
    Asks context.server.capabilities context.remote context.mode operation player
      (after.calls ++ (result.toOption.map (operation.call context.mode)).toList) := by
  have inquired := asked.inquired fits supported
  cases asked with
  | @linkedId account byId | @linkedName account byId _ =>
    have asks : Asks context.server.capabilities context.remote context.mode operation
      (.linked account) _ := .account
    rw [Account.query, byId] at asks
    rw [uncalled]
    exact asks
  | name own | id own =>
    rw [uncalled]
    exact .own rfl own
  | nameFound refused _ _ answered | idFound refused _ _ answered =>
    rw [Books.noting_calls, uncalled]
    exact .found rfl refused answered
  | nameLost refused _ _ answered | idLost refused _ _ answered =>
    rw [Books.noting_calls, uncalled]
    exact .lost rfl refused answered
  -- A refusal is behind a look-up that failed, but none was made.
  | nameRefused _ _ | idRefused _ _ | linkedRefused _ _ =>
    obtain ⟨_, made, _⟩ := inquired.lost _ rfl
    rw [uncalled] at made
    cases made

theorem Ending.unconcerned (ending : Ending context before command outcome after)
    (kind : command ∉ [.leaderboard, .score, .render])
    (concernless : ∀ operation player, ¬ Concerns context command operation player) :
    after.calls = before.calls := by
  cases ending with
  | queryFailed concerns _ | userFailed concerns _ _ | userShown concerns _ _
  | topFailed concerns _ _ | topEmpty concerns _ _ | topShown concerns _ _ _
  | recentFailed concerns _ _ | recentEmpty concerns _ _ | recentShown concerns _ _
  | setFailed concerns _ _ | setTaken concerns _ _ _ | setUnsaved concerns _ _ _ _
  | setDone concerns _ _ _ _ => exact absurd concerns (concernless _ _)
  | boardRoomless _ | boardMapless _ _ | boardDeserted _ _ _ | boardFailed _ _ _ _
  | boardEmpty _ _ _ _ _ | boardShown _ _ _ _ _ | scoreUnnamed _ | scoreFailed _ _
  | scoreShown _ _ | renderUnavailable _ | renderUnnamed _ _ | renderFailed _ _ _
  | renderUndrawn _ _ _ _ | renderDone _ _ _ _ => simp at kind
  | _ => rfl

theorem Ending.quiet (ending : Ending context before command outcome after)
    (own : command ∈ [.help, .unset, .mode, .chat]) : after.calls = before.calls := by
  apply ending.unconcerned
  · intro other
    simp only [List.mem_cons, List.not_mem_nil, or_false] at own other
    rcases own with rfl | rfl | rfl | rfl <;> simp at other
  · intro operation player concerns
    cases concerns <;> simp at own

section Fresh

variable (uncalled : before.calls = [])
include uncalled

/-- A command about a beatmap or a play asks for that, and may have the play drawn. -/
theorem Ending.concise_of_kind (ending : Ending context before command outcome after)
    (kind : command ∈ [.leaderboard, .score, .render]) :
    Concise context.remote context.renderer context.mode after.calls := by
  cases ending with
  | playerless _ _ | boardRoomless _ | boardMapless _ _ | boardDeserted _ _ _ | scoreUnnamed _
  | renderUnavailable _ | renderUnnamed _ _ =>
    rw [uncalled]
    exact .nil
  | queryFailed concerns _ => cases concerns <;> simp at kind
  | boardFailed _ _ _ _ | boardEmpty _ _ _ _ _ | boardShown _ _ _ _ _ | scoreFailed _ _
  | renderFailed _ _ _ =>
    rw [Books.noting_calls, uncalled]
    exact .single rfl
  | scoreShown _ _ =>
    rw [Books.showing_calls, Books.noting_calls, uncalled]
    exact .single rfl
  | renderUndrawn _ _ answered _ | renderDone _ _ answered _ =>
    rw [Books.noting_calls, Books.showing_calls, Books.noting_calls, uncalled]
    refine .pair rfl rfl ?_
    rw [Call.failure?, answered]
    rfl
  | _ => simp at kind

variable
  (offered : command.isOffered context.server.capabilities context.server.renders = true)
  (reference : ∀ player, context.reference = some player →
    player.Fits context.server.capabilities)
include offered reference

theorem Ending.asks (ending : Ending context before command outcome after)
    (concerns : Concerns context command operation player) :
    Asks context.server.capabilities context.remote context.mode operation player
      after.calls := by
  obtain ⟨fits, supported⟩ := concerns.fits offered reference
  obtain ⟨result, middle, asked, made⟩ := ending.calls_of_concerns concerns
  rw [made]
  exact asked.asks uncalled fits supported

theorem Ending.concise (ending : Ending context before command outcome after) :
    Concise context.remote context.renderer context.mode after.calls := by
  by_cases concerned : ∃ operation player, Concerns context command operation player
  · obtain ⟨operation, player, concerns⟩ := concerned
    exact (ending.asks uncalled offered reference concerns).concise context.renderer
  · by_cases kind : command ∈ [.leaderboard, .score, .render]
    · exact ending.concise_of_kind uncalled kind
    · have quiet := ending.unconcerned kind fun operation player concerns =>
        concerned ⟨operation, player, concerns⟩
      rw [quiet, uncalled]
      exact .nil

/-- The commands that look a player up make one call for it, where there is a player. -/
theorem Ending.lookups (ending : Ending context before command outcome after)
    (looks : command ∈ [.user, .set]) :
    after.calls = [] ∨ ∃ query, after.calls = [.user query context.mode] := by
  have lookup : ∀ operation player, Concerns context command operation player →
      operation = .lookup := by
    intro operation player concerns
    cases concerns with
    | user _ | set _ => rfl
    | top _ | recent _ => simp at looks
  by_cases concerned : ∃ player, Concerns context command .lookup player
  · obtain ⟨player, concerns⟩ := concerned
    obtain ⟨fits, supported⟩ := concerns.fits offered reference
    exact .inr ((ending.asks uncalled offered reference concerns).lookup fits supported)
  · left
    rw [← uncalled]
    apply ending.unconcerned
    · intro other
      simp only [List.mem_cons, List.not_mem_nil, or_false] at looks other
      rcases looks with rfl | rfl <;> simp at other
    · intro operation player concerns
      have same := lookup operation player concerns
      subst same
      exact concerned ⟨player, concerns⟩

end Fresh

end Answer

end RhythmBot
