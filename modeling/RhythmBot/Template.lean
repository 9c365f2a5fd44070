/-!
Text templates: placeholders are names in curly brackets, and each is replaced by the value of the
first parameter of its name. Main statement: the pieces of a template make it up again.
-/

namespace RhythmBot.Template

inductive Piece where
  | literal (text : List Char)
  | placeholder (name : List Char)
  deriving Repr, DecidableEq

def prependChar (c : Char) : List Piece → List Piece
  | .literal text :: rest => .literal (c :: text) :: rest
  | pieces => .literal [c] :: pieces

def nameBefore? : List Char → Option (List Char)
  | [] => none
  | c :: rest => if c = '\x7d' then some [] else (nameBefore? rest).map (c :: ·)

/-- The pieces of a template behind some characters already read. An opening bracket starts a
placeholder if the text up to the next closing bracket is a known name, else it is kept. -/
def piecesFrom (known : List Char → Bool) : Nat → List Char → List Piece
  | _, [] => []
  | skipped + 1, _ :: rest => piecesFrom known skipped rest
  | 0, c :: rest =>
    if c = '\x7b' then
      match nameBefore? rest with
      | some name =>
        if known name then .placeholder name :: piecesFrom known (name.length + 1) rest
        else prependChar c (piecesFrom known 0 rest)
      | none => prependChar c (piecesFrom known 0 rest)
    else prependChar c (piecesFrom known 0 rest)

def pieces (known : List Char → Bool) (template : List Char) : List Piece :=
  piecesFrom known 0 template

def value? (parameters : List (String × String)) (name : List Char) : Option String :=
  (parameters.find? fun parameter => parameter.1.toList == name).map Prod.snd

def fillPiece (parameters : List (String × String)) : Piece → List Char
  | .literal text => text
  | .placeholder name => ((value? parameters name).getD "").toList

/-- The template with its placeholders replaced; values are taken as they are. -/
def fill (template : String) (parameters : List (String × String)) : String :=
  String.ofList
    ((pieces (fun name => (value? parameters name).isSome) template.toList).flatMap
      (fillPiece parameters))

def Piece.source : Piece → List Char
  | .literal text => text
  | .placeholder name => '\x7b' :: name ++ ['\x7d']

theorem flatMap_prependChar {write : Piece → List Char} (kept : ∀ text, write (.literal text) = text)
    (c : Char) (pieces : List Piece) :
    (prependChar c pieces).flatMap write = c :: pieces.flatMap write := by
  unfold prependChar
  split <;> simp [kept]

theorem source_prependChar (c : Char) (pieces : List Piece) :
    (prependChar c pieces).flatMap Piece.source = c :: pieces.flatMap Piece.source :=
  flatMap_prependChar (fun _ => rfl) c pieces

theorem nameBefore?_eq_some {cs name : List Char} (found : nameBefore? cs = some name) :
    name ++ '\x7d' :: cs.drop (name.length + 1) = cs := by
  induction cs generalizing name with
  | nil => simp [nameBefore?] at found
  | cons c rest ih =>
    unfold nameBefore? at found
    split at found
    · rename_i closing
      cases found
      simp [closing]
    · obtain ⟨shorter, within, rfl⟩ := Option.map_eq_some_iff.1 found
      simpa using ih within

theorem source_piecesFrom (known : List Char → Bool) (skipped : Nat) (cs : List Char) :
    (piecesFrom known skipped cs).flatMap Piece.source = cs.drop skipped := by
  induction cs generalizing skipped with
  | nil => simp [piecesFrom]
  | cons c rest ih =>
    cases skipped with
    | succ skipped => simpa [piecesFrom] using ih skipped
    | zero =>
      unfold piecesFrom
      split
      · rename_i opening
        split
        · rename_i name found
          split
          · simp [Piece.source, ih, nameBefore?_eq_some found, opening]
          · simp [source_prependChar, ih]
        · simp [source_prependChar, ih]
      · simp [source_prependChar, ih]

/-- The pieces of a template make it up again. -/
theorem source_pieces (known : List Char → Bool) (template : List Char) :
    (pieces known template).flatMap Piece.source = template := by
  rw [pieces, source_piecesFrom, List.drop_zero]

end RhythmBot.Template
