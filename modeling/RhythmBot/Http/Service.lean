import RhythmBot.Capabilities
import RhythmBot.Http.Answers
import RhythmBot.Http.Exchange
import RhythmBot.Json.Reader
/-!
Servers on the web: what each call asks them for, and what they answer.
-/

namespace RhythmBot.Http

structure Service where
  address : String
  apiKey : Option String
  capabilities : Capabilities
  deriving Repr, DecidableEq, Inhabited

/-- What a call asks a server for: a path behind the address of the server, and parameters. -/
structure Endpoint where
  path : String
  parameters : FormData
  deriving Repr, DecidableEq

namespace Endpoint

def ofPlayer : PlayerQuery → String × String
  | .name text => ("name", text)
  | .id text => ("id", text)

def ofMode (mode : Mode) : String × String := ("mode", toString mode.index)

def ofMods (mods : Option Mods) : FormData :=
  mods.toList.map fun mods => ("mods", toString mods.bits.toNat)

def ofCall? : Call → Option Endpoint
  | .user query mode => some ⟨"/api/v1/users", [ofPlayer query, ofMode mode]⟩
  | .top query mode limit =>
    some ⟨"/api/v1/users/scores/best", [ofPlayer query, ofMode mode, ("l", toString limit)]⟩
  | .recent query mode => some ⟨"/api/v1/users/scores/recent", [ofPlayer query, ofMode mode]⟩
  | .score scoreId mode => some ⟨"/api/v1/scores/" ++ scoreId, [ofMode mode]⟩
  | .leaderboard beatmapId players mode mods =>
    some ⟨"/api/v1/leaderboard",
      [("b", beatmapId), ofMode mode, ("players", ",".intercalate players)] ++ ofMods mods⟩
  | .render _ _ => none

end Endpoint

def allowsQuery (capabilities : Capabilities) (operation : Operation) : PlayerQuery → Bool
  | .name _ => capabilities.byName operation
  | .id _ => capabilities.byId operation

def allows (capabilities : Capabilities) : Call → Bool
  | .user query _ => allowsQuery capabilities .lookup query
  | .top query _ _ => allowsQuery capabilities .top query
  | .recent query _ => allowsQuery capabilities .recent query
  | .score _ _ => capabilities.scoreById
  | .leaderboard _ _ _ _ => capabilities.leaderboard
  | .render _ _ => false

def operationName : Call → String
  | .user _ _ => "user lookup"
  | .top _ _ _ => "top plays"
  | .recent _ _ => "recent plays"
  | .score _ _ => "score by id"
  | .leaderboard _ _ _ _ => "leaderboard"
  | .render _ _ => "render"

namespace Service

def base (service : Service) : List Char :=
  (service.address.toList.reverse.dropWhile (· == '/')).reverse

def request? (service : Service) (endpoint : Endpoint) : Option Request := do
  let url ← Url.ofText? (String.ofList (service.base ++ endpoint.path.toList))
  if !service.apiKey.all isHeaderText then none
  some ⟨url.withParameters endpoint.parameters, service.apiKey, none⟩

def callRequest? (service : Service) (call : Call) : Option Request :=
  (Endpoint.ofCall? call).bind service.request?

/-- The failure of an exchange: an answer that nothing is there is one of its own. -/
def failureOf (fault : HttpFault) : Failure :=
  .remote (if fault = .status 404 then .notFound else .http fault)

def call {α : Type} (service : Service) (network : Network) (decode : Json → Option α)
    (call : Call) : Outcome α :=
  if !allows service.capabilities call then
    .error (.remote (.unsupported (operationName call)))
  else
    match exchange network (service.callRequest? call) with
    | .error fault => .error (failureOf fault)
    | .ok response =>
      match (response.text?.bind Json.read?).bind decode with
      | some value => .ok value
      | none => .error (.remote (.http .decode))

def remote (service : Service) (network : Network) : Remote where
  user query mode := service.call network (Answers.record? mode) (.user query mode)
  top query mode limit := service.call network Answers.scores? (.top query mode limit)
  recent query mode := service.call network Answers.scores? (.recent query mode)
  score scoreId mode := service.call network Answers.score? (.score scoreId mode)
  leaderboard beatmapId players mode mods :=
    service.call network Answers.entries? (.leaderboard beatmapId players mode mods)

end Service

end RhythmBot.Http
