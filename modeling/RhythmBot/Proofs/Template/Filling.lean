import RhythmBot.Proofs.Template.Pieces
import RhythmBot.Proofs.Text.Bytes
/-!
What filling a template comes to. Main statement: a template falls into texts and placeholders by what
it says and by the names of the parameters alone, and is filled by putting the value of the first
parameter of its name in the place of each placeholder; read by byte offsets in UTF-8, it is never
cut inside of a character.
-/

namespace RhythmBot.Template

open Text

variable {parameters : List (String × String)}

/-- The parts of a template with the parameters put in: a placeholder becomes the value of the first
parameter of its name. -/
inductive Filled (parameters : List (String × String)) : List Piece → List Char → Prop
  | nil : Filled parameters [] []
  | literal (text : List Char) {later : List Piece} {rest : List Char} :
      Filled parameters later rest →
      Filled parameters (.literal text :: later) (text ++ rest)
  | placeholder {before after : List (String × String)} {name value : String}
      {later : List Piece} {rest : List Char} :
      parameters = before ++ (name, value) :: after →
      (∀ parameter ∈ before, parameter.1 ≠ name) →
      Filled parameters later rest →
      Filled parameters (.placeholder name.toList :: later) (value.toList ++ rest)

theorem value?_eq_some {name : List Char} {value : String}
    (found : value? parameters name = some value) :
    ∃ before after, parameters = before ++ (String.ofList name, value) :: after ∧
      ∀ parameter ∈ before, parameter.1 ≠ String.ofList name := by
  obtain ⟨parameter, first, rfl⟩ := Option.map_eq_some_iff.1 found
  obtain ⟨named, before, after, rfl, others⟩ := List.find?_eq_some_iff_append.1 first
  have same : String.ofList name = parameter.1 := by
    rw [← eq_of_beq named, String.ofList_toList]
  refine ⟨before, after, by rw [same], ?_⟩
  intro other listed equal
  have differs := others other listed
  rw [equal, String.toList_ofList] at differs
  simp at differs

theorem isSome_value? (parameters : List (String × String)) (name : List Char) :
    (value? parameters name).isSome =
      (parameters.map Prod.fst).any fun known => known.toList == name := by
  unfold value?
  rw [Option.isSome_map, List.isSome_find?, List.any_map]
  rfl

theorem filled_flatMap (listed : List Piece)
    (known : ∀ name, .placeholder name ∈ listed → (value? parameters name).isSome = true) :
    Filled parameters listed (listed.flatMap (fillPiece parameters)) := by
  induction listed with
  | nil => exact .nil
  | cons piece later ih =>
    have filled := ih fun name behind => known name (.tail _ behind)
    rw [List.flatMap_cons]
    cases piece with
    | literal text => exact .literal text filled
    | placeholder name =>
      obtain ⟨value, found⟩ := Option.isSome_iff_exists.1 (known name List.mem_cons_self)
      obtain ⟨before, after, same, others⟩ := value?_eq_some found
      have put := Filled.placeholder same others filled
      rw [String.toList_ofList] at put
      rw [fillPiece, found]
      exact put

/-- What a text that starts with an opening bracket gives for a placeholder there, if it is one of a
parameter: the value, and the byte offset of the closing bracket. Without result if a cut fails. -/
def opened? (parameters : List (String × String)) (tail : List Char) :
    Option (Option (String × Nat)) :=
  match offsetOf? '\x7d' tail with
  | none => some none
  | some last => do
    let name ← between? 1 last tail
    return (value? parameters name).map (·, last)

/-- What is written up to a bracket at a byte offset and in its place, and the text that is left. -/
def advance? (parameters : List (String × String)) (start : Nat) (rest : List Char) :
    Option (List Char × List Char) := do
  let (front, tail) ← cutAt? start rest
  match ← opened? parameters tail with
  | some (value, last) =>
    let (_, later) ← cutAt? (last + 1) tail
    return (front ++ value.toList, later)
  | none =>
    let (_, later) ← cutAt? 1 tail
    return (front ++ ['\x7b'], later)

theorem length_of_advance? {parameters : List (String × String)} {start : Nat}
    {rest written later : List Char}
    (step : advance? parameters start rest = some (written, later)) :
    later.length < rest.length := by
  simp only [advance?, Option.bind_eq_bind, Option.bind_eq_some_iff] at step
  obtain ⟨⟨front, tail⟩, cut, found, _, step⟩ := step
  have within : tail.length ≤ rest.length := by
    rw [(cutAt?_eq_some cut).1, List.length_append]
    omega
  cases found with
  | none =>
    obtain ⟨⟨_, _⟩, behind, same⟩ := Option.bind_eq_some_iff.1 step
    cases same
    exact Nat.lt_of_lt_of_le (length_of_cutAt? behind) within
  | some place =>
    obtain ⟨⟨_, _⟩, behind, same⟩ := Option.bind_eq_some_iff.1 step
    cases same
    exact Nat.lt_of_lt_of_le (length_of_cutAt? behind) within

/-- A template read by byte offsets: up to the next opening bracket, over the placeholder or the
bracket there, and on. Without result if a cut fails. -/
def scan? (parameters : List (String × String)) (rest : List Char) : Option (List Char) :=
  match offsetOf? '\x7b' rest with
  | none => some rest
  | some start =>
    match _step : advance? parameters start rest with
    | none => none
    | some (written, later) => (scan? parameters later).map (written ++ ·)
termination_by rest.length
decreasing_by exact length_of_advance? _step

def filled (parameters : List (String × String)) (cs : List Char) : List Char :=
  (pieces (fun name => (value? parameters name).isSome) cs).flatMap (fillPiece parameters)

theorem filled_opened {name : List Char} {value : String} (unclosed : '\x7d' ∉ name)
    (found : value? parameters name = some value) (later : List Char) :
    filled parameters ('\x7b' :: name ++ '\x7d' :: later) =
      value.toList ++ filled parameters later := by
  unfold filled
  rw [pieces_opened (by rw [found]; rfl) unclosed, List.flatMap_cons, fillPiece, found]
  rfl

theorem filled_kept {c : Char} {rest : List Char}
    (kept : ¬ Opens (fun name => (value? parameters name).isSome) (c :: rest)) :
    filled parameters (c :: rest) = c :: filled parameters rest := by
  unfold filled
  rw [pieces_kept kept, flatMap_prependChar fun _ => rfl]

theorem filled_append (parameters : List (String × String)) {front : List Char}
    (unopened : '\x7b' ∉ front) (tail : List Char) :
    filled parameters (front ++ tail) = front ++ filled parameters tail := by
  induction front with
  | nil => rfl
  | cons c front ih =>
    rw [List.mem_cons, not_or] at unopened
    rw [List.cons_append, filled_kept, ih unopened.2, List.cons_append]
    rintro ⟨name, later, _, _, same⟩
    exact unopened.1 (List.cons.inj same).1.symm

theorem opened?_unclosed {rest : List Char} (unclosed : '\x7d' ∉ rest) :
    opened? parameters ('\x7b' :: rest) = some none := by
  unfold opened?
  rw [offsetOf?_of_not_mem]
  rw [List.mem_cons, not_or]
  exact ⟨by decide, unclosed⟩

theorem opened?_closed (parameters : List (String × String)) {name : List Char}
    (unclosed : '\x7d' ∉ name) (later : List Char) :
    opened? parameters ('\x7b' :: name ++ '\x7d' :: later) =
      some ((value? parameters name).map (·, byteLength ('\x7b' :: name))) := by
  have first : '\x7d' ∉ '\x7b' :: name := by
    rw [List.mem_cons, not_or]
    exact ⟨by decide, unclosed⟩
  have inner := between?_append ['\x7b'] name ('\x7d' :: later)
  unfold opened?
  rw [offsetOf?_append first]
  change (between? (byteLength ['\x7b']) (byteLength (['\x7b'] ++ name))
    (['\x7b'] ++ name ++ '\x7d' :: later)).bind _ = _
  rw [inner]
  rfl

theorem opened?_kept {rest : List Char}
    (kept : ¬ Opens (fun name => (value? parameters name).isSome) ('\x7b' :: rest)) :
    opened? parameters ('\x7b' :: rest) = some none := by
  by_cases closed : '\x7d' ∈ rest
  · obtain ⟨name, later, rfl, unclosed⟩ := List.eq_append_cons_of_mem closed
    have read := opened?_closed parameters unclosed later
    rw [List.cons_append] at read
    rw [read]
    cases found : value? parameters name with
    | none => rfl
    | some value =>
      have named := Option.isSome_iff_exists.2 ⟨value, found⟩
      exact absurd ⟨name, later, named, unclosed, rfl⟩ kept
  · exact opened?_unclosed closed

theorem advance?_kept {front rest : List Char}
    (kept : opened? parameters ('\x7b' :: rest) = some none) :
    advance? parameters (byteLength front) (front ++ '\x7b' :: rest) =
      some (front ++ ['\x7b'], rest) := by
  have cut := cutAt?_append ['\x7b'] rest
  unfold advance?
  rw [cutAt?_append]
  change (opened? parameters ('\x7b' :: rest)).bind _ = _
  rw [kept]
  change (cutAt? (byteLength ['\x7b']) (['\x7b'] ++ rest)).bind _ = _
  rw [cut]
  rfl

theorem advance?_opened {front name : List Char} {value : String} (unclosed : '\x7d' ∉ name)
    (found : value? parameters name = some value) (later : List Char) :
    advance? parameters (byteLength front) (front ++ ('\x7b' :: name ++ '\x7d' :: later)) =
      some (front ++ value.toList, later) := by
  have cut := cutAt?_append ('\x7b' :: name ++ ['\x7d']) later
  rw [byteLength_append, List.append_assoc, List.singleton_append] at cut
  unfold advance?
  rw [cutAt?_append]
  change (opened? parameters _).bind _ = _
  rw [opened?_closed parameters unclosed, found]
  change (cutAt? (byteLength ('\x7b' :: name) + byteLength ['\x7d']) _).bind _ = _
  rw [cut]
  rfl

/-- A step writes what the text up to its end is filled to. -/
theorem advance?_filled (parameters : List (String × String)) {front : List Char}
    (unopened : '\x7b' ∉ front) (rest : List Char) :
    ∃ written later,
      advance? parameters (byteLength front) (front ++ '\x7b' :: rest) = some (written, later) ∧
        filled parameters (front ++ '\x7b' :: rest) = written ++ filled parameters later := by
  by_cases opens : Opens (fun name => (value? parameters name).isSome) ('\x7b' :: rest)
  · obtain ⟨name, later, named, unclosed, same⟩ := opens
    obtain ⟨value, found⟩ := Option.isSome_iff_exists.1 named
    rw [same]
    refine ⟨_, _, advance?_opened unclosed found later, ?_⟩
    rw [filled_append parameters unopened, filled_opened unclosed found, List.append_assoc]
  · refine ⟨_, _, advance?_kept (opened?_kept opens), ?_⟩
    rw [filled_append parameters unopened, filled_kept opens, List.append_assoc, List.singleton_append]

/-- No cut fails, and reading by byte offsets fills the template. -/
theorem scan?_eq_filled (rest : List Char) :
    scan? parameters rest = some (filled parameters rest) := by
  by_cases bracket : '\x7b' ∈ rest
  · obtain ⟨front, behind, same, unopened⟩ := List.eq_append_cons_of_mem bracket
    have start := offsetOf?_append unopened behind
    obtain ⟨written, later, step, put⟩ := advance?_filled parameters unopened behind
    rw [← same] at start step put
    have shorter := length_of_advance? step
    rw [scan?, start]
    simp only
    split
    · rename_i failed
      rw [step] at failed
      cases failed
    · rename_i other
      rw [step] at other
      cases other
      rw [scan?_eq_filled later, put]
      rfl
  · have plain := filled_append parameters bracket []
    rw [List.append_nil] at plain
    rw [scan?, offsetOf?_of_not_mem bracket, plain]
    change some rest = some (rest ++ [])
    rw [List.append_nil]
termination_by rest.length

/-- What a template falls into by the names of the parameters. -/
structure Split (names : List String) (template : List Char) (parts : List Piece) : Prop where
  /-- One after the other, the parts are the template. -/
  whole : parts.flatMap Piece.source = template
  /-- Placeholders have names of parameters. -/
  named : ∀ name, .placeholder name ∈ parts → ∃ known ∈ names, known.toList = name
  /-- No placeholder of a parameter is left in a text. -/
  exhausted : ∀ text, .literal text ∈ parts → ∀ name ∈ names,
    ¬ '\x7b' :: name.toList ++ ['\x7d'] <:+: text
  /-- Texts are as long as can be. -/
  apart : Apart parts

/-- A template is split by the names of the parameters, which have no closing bracket, and filled with
their values: whatever these are, each placeholder becomes the value of the first parameter of its name
and all else stays; read by byte offsets, it comes to the same and is never cut inside of a character. -/
theorem fill_split (template : String) (names : List String)
    (unclosed : ∀ name ∈ names, '\x7d' ∉ name.toList) :
    ∃ parts, Split names template.toList parts ∧
      ∀ parameters : List (String × String), parameters.map Prod.fst = names →
        Filled parameters parts (fill template parameters).toList ∧
        scan? parameters template.toList = some (fill template parameters).toList := by
  let known : List Char → Bool := fun name => names.any fun listed => listed.toList == name
  have known_iff : ∀ name, known name = true ↔ ∃ listed ∈ names, listed.toList = name := by
    intro name
    simp only [known, List.any_eq_true, beq_iff_eq]
  refine ⟨pieces known template.toList, ⟨source_pieces known _, ?_, ?_, apart_pieces _⟩, ?_⟩
  · intro name listed
    exact (known_iff name).1 (known_of_mem_pieces _ listed)
  · intro text listed name named
    exact not_infix_of_mem_pieces _ listed ((known_iff _).2 ⟨name, named, rfl⟩)
      (unclosed name named)
  · rintro parameters rfl
    have same : (fun name => (value? parameters name).isSome) = known :=
      funext (isSome_value? parameters)
    have text : (fill template parameters).toList = filled parameters template.toList := by
      unfold fill
      rw [String.toList_ofList]
      rfl
    rw [text, scan?_eq_filled]
    refine ⟨?_, rfl⟩
    rw [filled, same]
    apply filled_flatMap
    intro name listed
    rw [isSome_value?]
    exact known_of_mem_pieces _ listed

/-- The first value of a name counts, and a placeholder in it is not filled again; the brackets around
it, an unknown name and a bracket that is not closed stay. -/
theorem fill_split_nested :
    let template := "\x7b\x7bимя\x7d\x7d \x7bb\x7d \x7bc\x7d \x7b"
    let names := ["имя", "b", "имя"]
    fill template [("имя", "\x7bb\x7d"), ("b", "1"), ("имя", "2")] =
        "\x7b\x7bb\x7d\x7d 1 \x7bc\x7d \x7b" ∧
      (∀ name ∈ names, '\x7d' ∉ name.toList) ∧
      ∃ parts, Split names template.toList parts ∧
        ∀ parameters : List (String × String), parameters.map Prod.fst = names →
          Filled parameters parts (fill template parameters).toList ∧
          scan? parameters template.toList = some (fill template parameters).toList := by
  intro template names
  have unclosed : ∀ name ∈ names, '\x7d' ∉ name.toList := by decide
  exact ⟨by decide, unclosed, fill_split template names unclosed⟩

end RhythmBot.Template
