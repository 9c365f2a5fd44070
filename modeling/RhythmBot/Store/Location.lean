/-!
Where the files of the stores are.
-/

namespace RhythmBot.Store

/-- The path of a file in a directory. An absolute file path stays as it is, and a slash is put in
between unless the directory is empty or ends in one. -/
def pathIn (directory file : String) : String :=
  if file.toList.head? = some '/' then file
  else if directory.isEmpty || directory.toList.getLast? = some '/' then directory ++ file
  else directory ++ "/" ++ file

def isDirect (file : String) : Bool :=
  !file.isEmpty && file.toList.all fun c => c != '/' && c.toNat != 0

def playersFile (serverAlias : String) : String :=
  "players-" ++ serverAlias ++ ".json"

def chatsFile : String := "chats.json"

end RhythmBot.Store
