/-!
What the interface of a server can do, and when that makes up a usable server.
-/

namespace RhythmBot

structure Capabilities where
  lookupByName : Bool
  lookupById : Bool
  topByName : Bool
  topById : Bool
  recentByName : Bool
  recentById : Bool
  scoreById : Bool
  leaderboard : Bool
  deriving Repr, DecidableEq

inductive Operation where
  | lookup
  | top
  | recent
  deriving Repr, DecidableEq

/-- What makes capabilities unusable: no way to look a player up, or plays by name or by id without
the look-up of that kind. -/
inductive CapabilityError where
  | noLookup
  | nameWithoutLookup (plays : String)
  | idWithoutLookup (plays : String)
  deriving Repr, DecidableEq

def CapabilityError.message : CapabilityError → String
  | .noLookup => "at least one player lookup must be supported"
  | .nameWithoutLookup plays => plays ++ " by name requires lookup by name"
  | .idWithoutLookup plays => plays ++ " by id requires lookup by id"

namespace Capabilities

def flagNames : List String :=
  ["lookup_by_name", "lookup_by_id", "top_by_name", "top_by_id", "recent_by_name", "recent_by_id",
    "score_by_id", "leaderboard"]

def flags (capabilities : Capabilities) : List Bool :=
  [capabilities.lookupByName, capabilities.lookupById, capabilities.topByName,
    capabilities.topById, capabilities.recentByName, capabilities.recentById,
    capabilities.scoreById, capabilities.leaderboard]

def ofFlags (flag : String → Bool) : Capabilities where
  lookupByName := flag "lookup_by_name"
  lookupById := flag "lookup_by_id"
  topByName := flag "top_by_name"
  topById := flag "top_by_id"
  recentByName := flag "recent_by_name"
  recentById := flag "recent_by_id"
  scoreById := flag "score_by_id"
  leaderboard := flag "leaderboard"

def none : Capabilities := ofFlags fun _ => false

instance : Inhabited Capabilities := ⟨none⟩

def names (capabilities : Capabilities) : List String :=
  ((flagNames.zip capabilities.flags).filter Prod.snd).map Prod.fst

def playsName (top : Bool) : String :=
  if top then "top plays" else "recent plays"

def validate (capabilities : Capabilities) : Except CapabilityError Unit :=
  if !capabilities.lookupByName && !capabilities.lookupById then .error .noLookup
  else if (capabilities.topByName || capabilities.recentByName) && !capabilities.lookupByName then
    .error (.nameWithoutLookup (playsName capabilities.topByName))
  else if (capabilities.topById || capabilities.recentById) && !capabilities.lookupById then
    .error (.idWithoutLookup (playsName capabilities.topById))
  else .ok ()

def byName (capabilities : Capabilities) : Operation → Bool
  | .lookup => capabilities.lookupByName
  | .top => capabilities.topByName
  | .recent => capabilities.recentByName

def byId (capabilities : Capabilities) : Operation → Bool
  | .lookup => capabilities.lookupById
  | .top => capabilities.topById
  | .recent => capabilities.recentById

def supports (capabilities : Capabilities) (operation : Operation) : Bool :=
  capabilities.byName operation || capabilities.byId operation

end Capabilities

end RhythmBot
