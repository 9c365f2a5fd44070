import RhythmBot.Settings.Value
/-!
Paths of settings: the names of the tables around a setting, with points between them.
-/

namespace RhythmBot.Settings

def pathOf : List Char → List (List Char)
  | [] => [[]]
  | c :: rest =>
    if c = '.' then [] :: pathOf rest
    else
      match pathOf rest with
      | [] => [[c]]
      | piece :: later => (c :: piece) :: later

def nested (setting : Setting) : List String → Setting
  | [] => setting
  | name :: rest => .table [(name, nested setting rest)]

end RhythmBot.Settings
