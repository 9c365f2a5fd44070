import RhythmBot.Message
import RhythmBot.Reply
/-!
The console: a message a line, with tokens in front that say where it comes from, and replies as
lines of text.
-/

namespace RhythmBot.Console

open Text

/-- The origin with what a token in front of a line says of it: `@` and a name is the sender, `#`
and a name the room, `^` and a name the sender replied to. Any other token is none of these. -/
def markedOrigin? (origin : Origin) : List Char → Option Origin
  | '@' :: c :: name => some { origin with sender := String.ofList ('@' :: c :: name) }
  | '#' :: c :: name => some { origin with room := some (String.ofList (c :: name)) }
  | '^' :: c :: name => some { origin with replyTo := some (String.ofList ('@' :: c :: name)) }
  | _ => none

def frontToken (cs : List Char) : List Char := cs.takeWhile fun c => !isBlank c

def behindToken (cs : List Char) : List Char := dropBlanks (cs.dropWhile fun c => !isBlank c)

theorem markedOrigin?_isSome_length {origin : Origin} {token : List Char}
    (marked : (markedOrigin? origin token).isSome) : 2 ≤ token.length := by
  unfold markedOrigin? at marked
  split at marked <;> simp_all

theorem dropBlanks_length_le (cs : List Char) : (dropBlanks cs).length ≤ cs.length :=
  (List.dropWhile_sublist isBlank).length_le

theorem behindToken_length (cs : List Char) :
    (frontToken cs).length + (behindToken cs).length ≤ cs.length := by
  have parts := congrArg List.length
    (List.takeWhile_append_dropWhile (p := fun c => !isBlank c) (l := cs))
  have bound := dropBlanks_length_le (cs.dropWhile fun c => !isBlank c)
  simp only [List.length_append] at parts
  simp only [frontToken, behindToken]
  omega

def readFrom (origin : Origin) (cs : List Char) : Message :=
  match _marked : markedOrigin? origin (frontToken cs) with
  | some later => readFrom later (behindToken cs)
  | none => ⟨String.ofList (dropEndBlanks cs), origin⟩
termination_by cs.length
decreasing_by
  have long := markedOrigin?_isSome_length (Option.isSome_of_eq_some _marked)
  have bound := behindToken_length cs
  omega

def readLine (defaultSender line : String) : Message :=
  readFrom ⟨none, defaultSender, none⟩ (dropBlanks line.toList)

def buttonText (button : Button) : String :=
  "[" ++ button.label ++ "] " ++ button.command

def rowText (row : List Button) : String :=
  "  " ++ " | ".intercalate (row.map buttonText) ++ "\n"

def imageText (image : Image) : String :=
  "  <" ++ image.mediaType.text ++ " image, " ++ toString image.data.length ++ " bytes>\n"

def addressText (origin : Origin) : String :=
  match origin.room with
  | some room => "#" ++ room ++ " " ++ origin.sender
  | none => origin.sender

def replyText (origin : Origin) (reply : Reply) : String :=
  addressText origin ++ ": " ++ reply.text ++ "\n" ++ String.join (reply.buttons.map rowText) ++
    (reply.image.map imageText).getD ""

def splitLines : List UInt8 → List (List UInt8)
  | [] => []
  | byte :: rest =>
    if byte = 10 then [] :: splitLines rest
    else
      match splitLines rest with
      | [] => [[byte]]
      | line :: later => (byte :: line) :: later

def dropReturn (line : List UInt8) : List UInt8 :=
  if line.getLast? = some 13 then line.dropLast else line

def lineText? (line : List UInt8) : Option String :=
  String.fromUTF8? ⟨(dropReturn line).toArray⟩

/-- The messages of some lines, blank ones apart. A line that is no text ends the stream with a
failure, which is `none`. -/
def messages (defaultSender : String) : List (List UInt8) → List (Option Message)
  | [] => []
  | line :: rest =>
    match lineText? line with
    | none => [none]
    | some text =>
      if isBlankText text then messages defaultSender rest
      else some (readLine defaultSender text) :: messages defaultSender rest

def receive (defaultSender : String) (input : List UInt8) : List (Option Message) :=
  messages defaultSender (splitLines input)

end RhythmBot.Console
