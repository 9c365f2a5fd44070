import RhythmBot.MediaType
/-!
Replies: a text, rows of buttons that each send a command line, and an image.
-/

namespace RhythmBot

structure Button where
  label : String
  command : String
  deriving Repr, DecidableEq

structure Image where
  data : List UInt8
  mediaType : MediaType
  deriving Repr, DecidableEq

structure Reply where
  text : String
  buttons : List (List Button)
  image : Option Image
  deriving Repr, DecidableEq

namespace Reply

def ofText (text : String) : Reply := ⟨text, [], none⟩

instance : Inhabited Reply := ⟨ofText ""⟩

def withRow (reply : Reply) (row : List Button) : Reply :=
  if row.isEmpty then reply else { reply with buttons := reply.buttons ++ [row] }

/-- The button at a column of a row, both counted from zero. -/
def button? (reply : Reply) (row column : Nat) : Option Button :=
  reply.buttons[row]?.bind fun buttons => buttons[column]?

def withImage (reply : Reply) (image : Image) : Reply :=
  { reply with image := some image }

def tagged (server text : String) : String :=
  "[" ++ server ++ "] " ++ text

def tag (server : String) (reply : Reply) : Reply :=
  { reply with text := tagged server reply.text }

end Reply

end RhythmBot
