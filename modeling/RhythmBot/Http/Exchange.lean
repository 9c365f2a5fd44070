import RhythmBot.Http.Url
import RhythmBot.Remote
/-!
Requests, the network that answers them, and how an exchange can fail.
-/

namespace RhythmBot.Http

/-- A request: what is asked of which server, the key that it carries if there is one, and the
document posted along, without which it only reads. -/
structure Request where
  url : Url
  apiKey : Option String
  posted : Option String
  deriving Repr, DecidableEq

def Request.method (request : Request) : String :=
  if request.posted.isSome then "POST" else "GET"

structure Response where
  status : Nat
  contentType : Option String
  body : List UInt8
  deriving Repr, DecidableEq

def Response.text? (response : Response) : Option String :=
  String.fromUTF8? ⟨response.body.toArray⟩

abbrev Network := Request → Option Response

def isHeaderByte (byte : UInt8) : Bool := byte == 9 || (32 ≤ byte && byte != 127)

def isHeaderText (text : String) : Bool := text.toUTF8.toList.all isHeaderByte

def isErrorStatus (status : Nat) : Bool := 400 ≤ status && status < 600

def exchange (network : Network) (request : Option Request) : Except HttpFault Response :=
  match request with
  | none => .error .builder
  | some request =>
    match network request with
    | none => .error .other
    | some response =>
      if isErrorStatus response.status then .error (.status response.status) else .ok response

end RhythmBot.Http
