import RhythmBot.Http.Exchange
import RhythmBot.Json.Value
/-!
Drawing plays by a renderer on the web.
-/

namespace RhythmBot.Http

def drawingOrder (score : Score) (mode : Mode) : Json :=
  Json.record
    [("score_id", Json.ofOption Json.ofText score.scoreId),
      ("beatmap_id", Json.ofText score.beatmapId),
      ("mods", Json.ofNat score.mods.bits.toNat),
      ("mode", Json.ofNat mode.index)]

def drawingRequest? (address : String) (score : Score) (mode : Mode) : Option Request :=
  (Url.ofText? address).map fun url => ⟨url, none, some (drawingOrder score mode).render⟩

/-- The renderer at an address over a network. An answer without a type is a PNG image. -/
def renderer (address : String) (network : Network) : Renderer := fun score mode =>
  match exchange network (drawingRequest? address score mode) with
  | .error fault => .error (.remote (.http fault))
  | .ok response =>
    .ok ⟨response.body, (response.contentType.bind MediaType.ofText?).getD .png⟩

end RhythmBot.Http
