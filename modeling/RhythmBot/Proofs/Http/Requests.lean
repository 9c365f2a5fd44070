import RhythmBot.Http.Service
import RhythmBot.Proofs.Http.Form
import RhythmBot.Proofs.Http.Url
import RhythmBot.Proofs.Text.Words
/-!
The shape of requests. Main statement: every call but the one for a play asks for its own place
behind the address of the server, with its own parameters, whatever its texts are. The call for a
play does so exactly for the ids that are a segment of a path as they stand; nothing encodes them.
-/

namespace RhythmBot.Http

open Url

theorem isPathChar_of_digit (c : Char) (digit : (Json.hexValue? c).isSome = true) :
    isPathChar c = true := by
  have all : ∀ n < 128, (Json.hexValue? (Char.ofNat n)).isSome = true →
      isPathChar (Char.ofNat n) = true := by decide
  have below : ∀ last : Char, last.toNat < 128 → c ≤ last → c.toNat < 128 :=
    fun last ascii within => Nat.lt_of_le_of_lt within ascii
  have small : c.toNat < 128 := by
    unfold Json.hexValue? at digit
    split at digit
    · rename_i between
      exact below '9' (by decide) between.2
    · split at digit
      · rename_i between
        exact below 'f' (by decide) between.2
      · split at digit
        · rename_i between
          exact below 'F' (by decide) between.2
        · cases digit
  have encoded := all c.toNat small
  rw [Char.ofNat_toNat] at encoded
  exact encoded digit

/-- A segment of a path stands for what it stood for before it was encoded. -/
theorem percentDecode_pathChars (segment : List Char) :
    percentDecode (percentEncode isPathChar segment) = percentDecode segment :=
  percentDecode_percentEncode isPathChar_of_digit (by decide) segment

/-- The texts that are a segment of a path as they stand, and stand for themselves there. -/
structure IsSegment (text : String) : Prop where
  solid : ∀ c ∈ text.toList, isSlash c = false ∧ isPathPart c = true
  bare : hasEscape text.toList = false
  ending : ∀ c ∈ text.toList.getLast?, isControl c = false
  named : text ≠ "." ∧ text ≠ ".."

/-- A request asks a server for a place behind its address, with some parameters. -/
structure Asks (service : Service) (root : Url) (place : List (List Char)) (parameters : FormData)
    (request : Request) : Prop where
  server : request.url.encrypted = root.encrypted ∧ request.url.host = root.host ∧
    request.url.port = root.port
  path : request.url.path = root.path.dropLast ++ place
  query : request.url.query.bind Form.decode? = some parameters
  fragment : request.url.fragment = none
  key : request.apiKey = service.apiKey
  posted : request.posted = none

/-- The place and the parameters of each call whose path has no text of its own. -/
inductive Places : Call → List String → FormData → Prop
  | user (query : PlayerQuery) (mode : Mode) :
      Places (.user query mode) ["api", "v1", "users"]
        [Endpoint.ofPlayer query, Endpoint.ofMode mode]
  | top (query : PlayerQuery) (mode : Mode) (limit : Nat) :
      Places (.top query mode limit) ["api", "v1", "users", "scores", "best"]
        [Endpoint.ofPlayer query, Endpoint.ofMode mode, ("l", toString limit)]
  | recent (query : PlayerQuery) (mode : Mode) :
      Places (.recent query mode) ["api", "v1", "users", "scores", "recent"]
        [Endpoint.ofPlayer query, Endpoint.ofMode mode]
  | leaderboard (beatmapId : String) (players : List String) (mode : Mode) (mods : Option Mods) :
      Places (.leaderboard beatmapId players mode mods) ["api", "v1", "leaderboard"]
        ([("b", beatmapId), Endpoint.ofMode mode, ("players", ",".intercalate players)] ++
          Endpoint.ofMods mods)

namespace Service

def root? (service : Service) : Option Url :=
  Url.ofText? (String.ofList (service.base ++ ['/']))

/-- The requests of a server, as far as they have the shape of their calls. A key that cannot be
sent keeps every request back. -/
structure Shaped (service : Service) (root : Url) : Prop where
  /-- The texts of these calls reach the server as parameters, whatever they are. -/
  fixed : ∀ call place parameters, Places call place parameters →
    ∃ request, Asks service root (place.map String.toList) parameters request ∧
      service.callRequest? call =
        if service.apiKey.all isHeaderText then some request else none
  /-- The id of a play reaches the server as one segment of the path exactly if it is one. -/
  score : ∀ scoreId mode, Text.IsWord scoreId →
    ∃ request,
      ((∃ segment, decodedText? segment = some scoreId ∧
        Asks service root ["api".toList, "v1".toList, "scores".toList, segment]
          [Endpoint.ofMode mode] request) ↔ IsSegment scoreId) ∧
      service.callRequest? (.score scoreId mode) =
        if service.apiKey.all isHeaderText then some request else none
  /-- Ids that are segments are told apart by what is sent for them. -/
  apart : ∀ first second mode firstRequest secondRequest,
    Text.IsWord first → IsSegment first → Text.IsWord second → IsSegment second →
    service.callRequest? (.score first mode) = some firstRequest →
    service.callRequest? (.score second mode) = some secondRequest →
    firstRequest.url.target = secondRequest.url.target → first = second

end Service

def requestBehind (service : Service) (root : Url) (done : List (List Char)) (text : List Char)
    (parameters : FormData) : Request :=
  ⟨(root.extend done text).withParameters parameters, service.apiKey, none⟩

variable {service : Service} {root : Url} {done : List (List Char)}

theorem query_requestBehind {text : List Char} (parts : ∀ c ∈ text, isPathPart c = true)
    (parameters : FormData) :
    (requestBehind service root done text parameters).url.query =
      some (Form.encode parameters) := by
  unfold requestBehind extend withParameters
  simp only [dropWhile_of_forall parts, behind?, Option.map_none, List.nil_append]

theorem asks_of_places (based : root.path.dropLast = done.reverse.map (percentEncode isPathChar))
    {text : List Char} (parts : ∀ c ∈ text, isPathPart c = true)
    (places : ∀ segment ∈ splitSlashes text, IsPlace segment) (parameters : FormData) :
    Asks service root ((splitSlashes text).map (percentEncode isPathChar)) parameters
      (requestBehind service root done text parameters) := by
  have whole := takeWhile_of_forall parts
  refine ⟨⟨rfl, rfl, rfl⟩, ?_, ?_, ?_, rfl, rfl⟩
  · show (resolveFrom done (splitSlashes (text.takeWhile isPathPart))).map _ = _
    rw [whole, resolveFrom_places (splitSlashes_ne_nil text) places, List.map_append, based]
  · rw [query_requestBehind parts, Option.bind_some, Form.decode?_encode]
  · unfold requestBehind extend withParameters
    simp only [dropWhile_of_forall parts, List.dropWhile_nil, behind?, Option.map_none]

section Based

variable (rooted : service.root? = some root) (noQuery : root.query = none)
  (noFragment : root.fragment = none)
include rooted noQuery noFragment

/-- Behind a base without query and fragment, every call is made in the place of the base. -/
theorem callRequest?_behind :
    ∃ done, root.path.dropLast = done.reverse.map (percentEncode isPathChar) ∧
      ∀ (call : Call) (endpoint : Endpoint) (text : List Char),
        Endpoint.ofCall? call = some endpoint → endpoint.path.toList = '/' :: text →
        service.callRequest? call =
          if service.apiKey.all isHeaderText then
            some (requestBehind service root done (trail text) endpoint.parameters)
          else none := by
  obtain ⟨done, based, extended⟩ := ofText?_append rooted noQuery noFragment
  refine ⟨done, based, ?_⟩
  intro call endpoint text asked spelled
  unfold Service.callRequest? Service.request?
  rw [asked, Option.bind_some, spelled, extended]
  cases sendable : service.apiKey.all isHeaderText with
  | true => rfl
  | false => rfl

theorem callRequest?_places {call : Call} {endpoint : Endpoint}
    (asked : Endpoint.ofCall? call = some endpoint) {text : List Char}
    {place : List String} (spelled : endpoint.path.toList = '/' :: text)
    (kept : trail text = text) (parts : text.all isPathPart = true)
    (places : ∀ segment ∈ splitSlashes text, IsPlace segment)
    (named : (splitSlashes text).map (percentEncode isPathChar) = place.map String.toList) :
    ∃ request, Asks service root (place.map String.toList) endpoint.parameters request ∧
      service.callRequest? call =
        if service.apiKey.all isHeaderText then some request else none := by
  obtain ⟨done, based, requested⟩ := callRequest?_behind rooted noQuery noFragment
  have asks : Asks service root _ _ _ :=
    asks_of_places based (List.all_eq_true.1 parts) places endpoint.parameters
  rw [named] at asks
  refine ⟨_, asks, ?_⟩
  rw [requested call endpoint text asked spelled, kept]

theorem Places.asks {call : Call} {place : List String} {parameters : FormData}
    (places : Places call place parameters) :
    ∃ request, Asks service root (place.map String.toList) parameters request ∧
      service.callRequest? call =
        if service.apiKey.all isHeaderText then some request else none := by
  cases places with
  | user query mode =>
    have asked : Endpoint.ofCall? (.user query mode) = some _ := rfl
    have spelled : "/api/v1/users".toList = '/' :: "api/v1/users".toList := by decide
    exact callRequest?_places rooted noQuery noFragment asked spelled (by decide) (by decide)
      (by decide) (by decide)
  | top query mode limit =>
    have asked : Endpoint.ofCall? (.top query mode limit) = some _ := rfl
    have spelled : "/api/v1/users/scores/best".toList =
        '/' :: "api/v1/users/scores/best".toList := by decide
    exact callRequest?_places rooted noQuery noFragment asked spelled (by decide) (by decide)
      (by decide) (by decide)
  | recent query mode =>
    have asked : Endpoint.ofCall? (.recent query mode) = some _ := rfl
    have spelled : "/api/v1/users/scores/recent".toList =
        '/' :: "api/v1/users/scores/recent".toList := by decide
    exact callRequest?_places rooted noQuery noFragment asked spelled (by decide) (by decide)
      (by decide) (by decide)
  | leaderboard beatmapId players mode mods =>
    have asked : Endpoint.ofCall? (.leaderboard beatmapId players mode mods) = some _ := rfl
    have spelled : "/api/v1/leaderboard".toList = '/' :: "api/v1/leaderboard".toList := by decide
    exact callRequest?_places rooted noQuery noFragment asked spelled (by decide) (by decide)
      (by decide) (by decide)

end Based

section Score

def scoreText (scoreId : List Char) : List Char := "api/v1/scores".toList ++ '/' :: scoreId

theorem isPathPart_front : ∀ c ∈ "api/v1/scores".toList, isPathPart c = true :=
  List.all_eq_true.1 (by decide)

theorem takeWhile_scoreText (scoreId : List Char) :
    (scoreText scoreId).takeWhile isPathPart = scoreText (scoreId.takeWhile isPathPart) := by
  unfold scoreText
  rw [List.takeWhile_append_of_pos isPathPart_front, List.takeWhile_cons_of_pos (by decide)]

theorem splitSlashes_scoreText (scoreId : List Char) :
    splitSlashes (scoreText scoreId) =
      ["api".toList, "v1".toList, "scores".toList] ++ splitSlashes scoreId := by
  unfold scoreText
  rw [splitSlashes_append]
  rfl

theorem trail_scoreText (scoreId : List Char) :
    trail (scoreText scoreId) = scoreText (trail scoreId) := by
  unfold scoreText
  rw [trail_append]
  rfl

variable {scoreId : String}

theorem trail_word (word : Text.IsWord scoreId) :
    trail scoreId.toList = scoreId.toList ↔ ∀ c ∈ scoreId.toList.getLast?, isControl c = false := by
  have unbroken : ∀ c ∈ scoreId.toList, (c != '\t' && c != '\n' && c != '\r') = true := by
    intro c listed
    have visible := word.2 c listed
    simp only [Bool.and_eq_true, bne_iff_ne]
    refine ⟨⟨?_, ?_⟩, ?_⟩ <;> rintro rfl <;> revert visible <;> decide
  obtain ⟨front, last, letters⟩ : ∃ front last, scoreId.toList = front ++ [last] :=
    ⟨_, _, (List.dropLast_concat_getLast word.1).symm⟩
  rw [letters] at unbroken ⊢
  have ends : trail (front ++ [last]) =
      if isControl last then trail front else front ++ [last] := by
    unfold trail
    rw [List.reverse_append, List.reverse_singleton, List.singleton_append, List.dropWhile_cons]
    split
    · rfl
    · rw [List.reverse_cons, List.reverse_reverse, List.filter_eq_self.2 unbroken]
  rw [ends]
  cases control : isControl last with
  | false => simp [control]
  | true =>
    have shorter := (trail_sublist front).length_le
    constructor
    · intro same
      have lengths := congrArg List.length same
      rw [if_pos rfl, List.length_append, List.length_singleton] at lengths
      omega
    · intro solid
      have visible := solid last (by simp)
      rw [control] at visible
      cases visible

theorem IsSegment.isPlace (segment : IsSegment scoreId) : IsPlace scoreId.toList := by
  constructor
  · intro dotted
    have letters := eq_replicate_of_dots? segment.bare dotted
    exact segment.named.1 (String.toList_inj.1 letters)
  · intro dotted
    have letters := eq_replicate_of_dots? segment.bare dotted
    exact segment.named.2 (String.toList_inj.1 letters)

theorem IsSegment.decoded (segment : IsSegment scoreId) :
    decodedText? (percentEncode isPathChar scoreId.toList) = some scoreId := by
  rw [decodedText?_eq_some, percentDecode_pathChars]
  exact percentDecode_of_not_hasEscape segment.bare

theorem callRequest?_score (rooted : service.root? = some root) (noQuery : root.query = none)
    (noFragment : root.fragment = none) (scoreId : String) (mode : Mode) :
    ∃ done, root.path.dropLast = done.reverse.map (percentEncode isPathChar) ∧
      service.callRequest? (.score scoreId mode) =
        if service.apiKey.all isHeaderText then
          some (requestBehind service root done (scoreText (trail scoreId.toList))
            [Endpoint.ofMode mode])
        else none := by
  obtain ⟨done, based, requested⟩ := callRequest?_behind rooted noQuery noFragment
  refine ⟨done, based, ?_⟩
  have spelled : ("/api/v1/scores/" ++ scoreId).toList = '/' :: scoreText scoreId.toList := by
    rw [String.toList_append]
    rfl
  rw [requested (.score scoreId mode) _ _ rfl spelled, trail_scoreText]

theorem IsSegment.isPathPart (segment : IsSegment scoreId) :
    ∀ c ∈ scoreText scoreId.toList, isPathPart c = true := by
  intro c listed
  rcases List.mem_append.1 listed with front | back
  · exact isPathPart_front c front
  · rcases List.mem_cons.1 back with rfl | inId
    · rfl
    · exact (segment.solid c inId).2

/-- An id that is a segment is asked for in its place. -/
theorem asks_of_isSegment (based : root.path.dropLast = done.reverse.map (percentEncode isPathChar))
    (segment : IsSegment scoreId) (parameters : FormData) :
    Asks service root
      ["api".toList, "v1".toList, "scores".toList, percentEncode isPathChar scoreId.toList]
      parameters (requestBehind service root done (scoreText scoreId.toList) parameters) := by
  have solid := splitSlashes_of_solid fun c listed => (segment.solid c listed).1
  have front_places : ∀ piece ∈ ["api".toList, "v1".toList, "scores".toList], IsPlace piece := by
    decide
  have places : ∀ piece ∈ splitSlashes (scoreText scoreId.toList), IsPlace piece := by
    intro piece listed
    rw [splitSlashes_scoreText, solid] at listed
    rcases List.mem_append.1 listed with front | back
    · exact front_places piece front
    · rw [List.mem_singleton.1 back]
      exact segment.isPlace
  have asks : Asks service root _ _ _ := asks_of_places based segment.isPathPart places
    parameters
  rw [splitSlashes_scoreText, solid] at asks
  exact asks

theorem target_of_isSegment
    (based : root.path.dropLast = done.reverse.map (percentEncode isPathChar))
    (segment : IsSegment scoreId) (parameters : FormData) :
    (requestBehind service root done (scoreText scoreId.toList) parameters).url.target =
      String.ofList
        ((root.path.dropLast ++ ["api".toList, "v1".toList, "scores".toList]).flatMap ('/' :: ·) ++
          '/' :: percentEncode isPathChar scoreId.toList ++ '?' :: Form.encode parameters) := by
  have asks : Asks service root _ _ _ := asks_of_isSegment based segment parameters
  unfold target pathText
  rw [asks.path, query_requestBehind segment.isPathPart]
  simp

/-- An id that is asked for in its place is a segment: what reaches the server of it is a part, and
a part stands for the whole only if nothing is cut off, taken for a way or decoded. -/
theorem isSegment_of_asks (word : Text.IsWord scoreId) {segment : List Char}
    {parameters written : FormData} (decoded : decodedText? segment = some scoreId)
    (asks : Asks service root ["api".toList, "v1".toList, "scores".toList, segment] parameters
      (requestBehind service root done (scoreText (trail scoreId.toList)) written)) :
    IsSegment scoreId := by
  obtain ⟨pieces, last, split, within, solid⟩ :=
    splitSlashes_last ((trail scoreId.toList).takeWhile isPathPart)
  have path : (resolveFrom done
      (["api".toList, "v1".toList, "scores".toList] ++ pieces ++ [last])).map
        (percentEncode isPathChar) =
      root.path.dropLast ++ ["api".toList, "v1".toList, "scores".toList] ++ [segment] := by
    rw [List.append_assoc root.path.dropLast]
    show _ = root.path.dropLast ++ ["api".toList, "v1".toList, "scores".toList, segment]
    rw [← asks.path, List.append_assoc, ← split, ← splitSlashes_scoreText, ← takeWhile_scoreText]
    rfl
  have stands : ∀ part : List Char, part.Sublist scoreId.toList →
      segment = percentEncode isPathChar part →
      part = scoreId.toList ∧ hasEscape scoreId.toList = false := by
    intro part within same
    rw [same, decodedText?_eq_some, percentDecode_pathChars] at decoded
    exact eq_of_percentDecode_eq within decoded
  have cut := List.takeWhile_sublist (l := trail scoreId.toList) isPathPart
  have trimmed := trail_sublist scoreId.toList
  rcases last_of_map_resolveFrom path with emptied | ⟨place, kept⟩
  · obtain ⟨nothing, _⟩ := stands [] (List.nil_sublist _) emptied
    exact absurd nothing.symm word.1
  · obtain ⟨whole, bare⟩ := stands last (within.trans (cut.trans trimmed)) kept
    subst whole
    have uncut := (cut.trans trimmed).eq_of_length_le within.length_le
    have untrimmed := trimmed.eq_of_length_le (within.trans cut).length_le
    refine ⟨?_, bare, (trail_word word).1 untrimmed, ?_, ?_⟩
    · intro c listed
      rw [← uncut] at listed
      have part := List.all_eq_true.1 List.all_takeWhile c listed
      exact ⟨solid c (uncut ▸ listed), part⟩
    · rintro rfl
      exact place.1 rfl
    · rintro rfl
      exact place.2 rfl

end Score

section Shape

variable (rooted : service.root? = some root) (noQuery : root.query = none)
  (noFragment : root.fragment = none)
include rooted noQuery noFragment

/-- What is sent for the id of a play that is a segment. -/
theorem target_of_sent {scoreId : String} {mode : Mode} {request : Request}
    (word : Text.IsWord scoreId) (segment : IsSegment scoreId)
    (sent : service.callRequest? (.score scoreId mode) = some request) :
    request.url.target = String.ofList
      ((root.path.dropLast ++ ["api".toList, "v1".toList, "scores".toList]).flatMap ('/' :: ·) ++
        '/' :: percentEncode isPathChar scoreId.toList ++
          '?' :: Form.encode [Endpoint.ofMode mode]) := by
  obtain ⟨done, based, requested⟩ := callRequest?_score rooted noQuery noFragment scoreId mode
  rw [requested, (trail_word word).2 segment.ending, Option.ite_none_right_eq_some] at sent
  cases sent.2
  exact target_of_isSegment based segment _

end Shape

/-- Behind a base without query and fragment, the requests of a server have the shape of their
calls, up to the ids of plays that are no segment of a path. -/
theorem Service.shaped (service : Service) {root : Url} (rooted : service.root? = some root)
    (noQuery : root.query = none) (noFragment : root.fragment = none) : service.Shaped root := by
  refine ⟨?_, ?_, ?_⟩
  · intro call place parameters places
    exact places.asks rooted noQuery noFragment
  · intro scoreId mode word
    obtain ⟨done, based, requested⟩ :=
      callRequest?_score rooted noQuery noFragment scoreId mode
    refine ⟨_, ?_, requested⟩
    constructor
    · rintro ⟨segment, decoded, asks⟩
      exact isSegment_of_asks word decoded asks
    · intro segment
      rw [(trail_word word).2 segment.ending]
      exact ⟨_, segment.decoded, asks_of_isSegment based segment _⟩
  · intro first second mode firstRequest secondRequest firstWord firstSegment secondWord
      secondSegment firstSent secondSent same
    rw [target_of_sent rooted noQuery noFragment firstWord firstSegment firstSent,
      target_of_sent rooted noQuery noFragment secondWord secondSegment secondSent,
      String.ofList_inj, List.append_cancel_right_eq, List.append_cancel_left_eq,
      List.cons.injEq] at same
    have decoded := firstSegment.decoded
    rw [same.2, secondSegment.decoded, Option.some.injEq] at decoded
    exact decoded.symm

/-- An address with a path, written with slashes at its end. -/
theorem Service.shaped_path :
    let service : Service := ⟨"http://example.org/osu//", some "key", default⟩
    let root : Url := ⟨false, "example.org".toList, none, ["osu".toList, []], none, none⟩
    service.root? = some root ∧ service.Shaped root := by
  intro service root
  have rooted : service.root? = some root := by decide
  exact ⟨rooted, service.shaped rooted rfl rfl⟩

/-- A hash sign in the id of a play cuts it off, so the same is sent as for another id, and dots in
it lead to the place of another call. -/
theorem Service.score_misled :
    let service : Service := ⟨"http://example.org", none, default⟩
    let sent (scoreId : String) : Option String :=
      (service.callRequest? (.score scoreId .standard)).map fun request => request.url.target
    (Text.IsWord "1" ∧ sent "1" = some "/api/v1/scores/1?mode=0") ∧
      (Text.IsWord "1#2" ∧ sent "1#2" = some "/api/v1/scores/1?mode=0") ∧
      (Text.IsWord "../users" ∧ sent "../users" = some "/api/v1/users?mode=0") := by
  decide

end RhythmBot.Http
