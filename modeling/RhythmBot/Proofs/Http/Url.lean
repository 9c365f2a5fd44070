import RhythmBot.Http.Url
import RhythmBot.Proofs.Http.Percent
/-!
How an address is read whose text goes on behind a base. Main statement: the server stays that of the
base, and the path goes on behind its segments, however the text behind it is spelled.
-/

namespace RhythmBot.Http.Url

section Stop

variable {p : Char → Bool} {stop : Char} (halts : p stop = false) (front back : List Char)
include halts

theorem takeWhile_append_stop : (front ++ stop :: back).takeWhile p = front.takeWhile p := by
  induction front with
  | nil => simp [halts]
  | cons c front ih =>
    rw [List.cons_append, List.takeWhile_cons, List.takeWhile_cons, ih]

theorem dropWhile_append_stop :
    (front ++ stop :: back).dropWhile p = front.dropWhile p ++ stop :: back := by
  induction front with
  | nil => simp [halts]
  | cons c front ih =>
    rw [List.cons_append, List.dropWhile_cons, List.dropWhile_cons, ih]
    split <;> rfl

end Stop

section All

variable {p : Char → Bool} {cs : List Char} (all : ∀ c ∈ cs, p c = true)
include all

theorem takeWhile_of_forall : cs.takeWhile p = cs := by
  have taken : (cs ++ []).takeWhile p = cs ++ List.takeWhile p [] :=
    List.takeWhile_append_of_pos all
  rwa [List.takeWhile_nil, List.append_nil] at taken

theorem dropWhile_of_forall : cs.dropWhile p = [] := by
  have dropped : (cs ++ []).dropWhile p = List.dropWhile p [] :=
    List.dropWhile_append_of_pos all
  rwa [List.dropWhile_nil, List.append_nil] at dropped

end All

section Segments

theorem splitSlashes_ne_nil (cs : List Char) : splitSlashes cs ≠ [] := by
  cases cs with
  | nil => exact List.cons_ne_nil _ _
  | cons c rest =>
    unfold splitSlashes
    split
    · exact List.cons_ne_nil _ _
    · split <;> exact List.cons_ne_nil _ _

theorem splitSlashes_append (front back : List Char) :
    splitSlashes (front ++ '/' :: back) = splitSlashes front ++ splitSlashes back := by
  induction front with
  | nil => rfl
  | cons c front ih =>
    rw [List.cons_append, splitSlashes, splitSlashes, ih]
    split
    · rfl
    · obtain ⟨piece, later, pieces⟩ := List.exists_cons_of_ne_nil (splitSlashes_ne_nil front)
      rw [pieces]
      rfl

theorem splitSlashes_of_solid {cs : List Char} (solid : ∀ c ∈ cs, isSlash c = false) :
    splitSlashes cs = [cs] := by
  induction cs with
  | nil => rfl
  | cons c rest ih =>
    have slash := solid c List.mem_cons_self
    rw [splitSlashes, slash, ih fun other listed => solid other (List.mem_cons_of_mem c listed)]
    rfl

/-- The last piece is a part of the text without slashes. -/
theorem splitSlashes_last (cs : List Char) :
    ∃ pieces last, splitSlashes cs = pieces ++ [last] ∧ last.Sublist cs ∧
      ∀ c ∈ last, isSlash c = false := by
  induction cs with
  | nil => exact ⟨[], [], rfl, .slnil, fun c listed => by cases listed⟩
  | cons c rest ih =>
    obtain ⟨pieces, last, split, within, solid⟩ := ih
    unfold splitSlashes
    cases slash : isSlash c with
    | true =>
      rw [split]
      exact ⟨[] :: pieces, last, rfl, within.cons c, solid⟩
    | false =>
      rw [split]
      cases pieces with
      | nil =>
        refine ⟨[], c :: last, rfl, within.cons_cons c, ?_⟩
        intro other listed
        rcases List.mem_cons.1 listed with rfl | later
        · exact slash
        · exact solid other later
      | cons piece pieces => exact ⟨(c :: piece) :: pieces, last, rfl, within.cons c, solid⟩

/-- Whether a segment stands for a place and not for a way to one. -/
def IsPlace (segment : List Char) : Prop := dots? segment ≠ some 1 ∧ dots? segment ≠ some 2

instance (segment : List Char) : Decidable (IsPlace segment) := instDecidableAnd

def enter (done : List (List Char)) (segment : List Char) : List (List Char) :=
  match dots? segment with
  | some 1 => done
  | some 2 => done.tail
  | _ => segment :: done

variable (done : List (List Char))

theorem resolveFrom_cons (segment : List Char) {rest : List (List Char)} (more : rest ≠ []) :
    resolveFrom done (segment :: rest) = resolveFrom (enter done segment) rest := by
  obtain ⟨next, later, rfl⟩ := List.exists_cons_of_ne_nil more
  rw [resolveFrom, enter]
  · generalize dots? segment = dots
    rcases dots with _ | _ | _ | _ | _ <;> rfl
  · exact more

theorem resolveFrom_append (segments : List (List Char)) {rest : List (List Char)}
    (more : rest ≠ []) :
    resolveFrom done (segments ++ rest) = resolveFrom (segments.foldl enter done) rest := by
  induction segments generalizing done with
  | nil => rfl
  | cons segment segments ih =>
    have behind : segments ++ rest ≠ [] := List.append_ne_nil_of_right_ne_nil segments more
    rw [List.cons_append, resolveFrom_cons done segment behind, ih, List.foldl_cons]

variable {done}

theorem resolveFrom_singleton {segment : List Char} (place : IsPlace segment) :
    resolveFrom done [segment] = done.reverse ++ [segment] := by
  unfold resolveFrom
  split
  · rename_i one
    exact absurd one place.1
  · rename_i two
    exact absurd two place.2
  · rfl

theorem enter_of_isPlace {segment : List Char} (place : IsPlace segment) :
    enter done segment = segment :: done := by
  unfold enter
  split
  · rename_i one
    exact absurd one place.1
  · rename_i two
    exact absurd two place.2
  · rfl

/-- Segments that stand for places are kept. -/
theorem resolveFrom_places {segments : List (List Char)} (some_segment : segments ≠ [])
    (places : ∀ segment ∈ segments, IsPlace segment) :
    resolveFrom done segments = done.reverse ++ segments := by
  induction segments generalizing done with
  | nil => exact absurd rfl some_segment
  | cons segment rest ih =>
    have place := places segment List.mem_cons_self
    cases rest with
    | nil => exact resolveFrom_singleton place
    | cons next rest =>
      rw [resolveFrom_cons done segment (List.cons_ne_nil next rest), enter_of_isPlace place,
        ih (List.cons_ne_nil next rest) fun other listed =>
          places other (List.mem_cons_of_mem segment listed),
        List.reverse_cons, List.append_assoc, List.singleton_append]

/-- The last segment of a path is the last one resolved, or it is empty. -/
theorem resolveFrom_last (done segments : List (List Char)) (last : List Char) :
    ∃ front, resolveFrom done (segments ++ [last]) = front ++ [[]] ∨
      IsPlace last ∧ resolveFrom done (segments ++ [last]) = front ++ [last] := by
  rw [resolveFrom_append done segments (List.cons_ne_nil last [])]
  generalize segments.foldl enter done = done
  by_cases place : IsPlace last
  · exact ⟨done.reverse, .inr ⟨place, resolveFrom_singleton place⟩⟩
  · unfold resolveFrom
    split
    · exact ⟨done.reverse, .inl rfl⟩
    · exact ⟨done.tail.reverse, .inl rfl⟩
    · rename_i one two
      exact absurd ⟨one, two⟩ place

theorem last_of_map_resolveFrom {done segments front : List (List Char)}
    {last written : List Char} {encode : List Char → List Char}
    (path : (resolveFrom done (segments ++ [last])).map encode = front ++ [written]) :
    written = encode [] ∨ IsPlace last ∧ written = encode last := by
  obtain ⟨places, resolved⟩ := resolveFrom_last done segments last
  have ends := congrArg List.getLast? path
  rw [List.getLast?_concat] at ends
  rcases resolved with emptied | ⟨place, kept⟩
  · rw [emptied, List.map_append, List.map_singleton, List.getLast?_concat] at ends
    exact .inl (Option.some.inj ends).symm
  · rw [kept, List.map_append, List.map_singleton, List.getLast?_concat] at ends
    exact .inr ⟨place, (Option.some.inj ends).symm⟩

theorem eq_replicate_of_dots? {segment : List Char} {n : Nat} (bare : hasEscape segment = false)
    (dotted : dots? segment = some n) : segment = List.replicate n '.' := by
  fun_induction dots? segment generalizing n with
  | case1 =>
    cases dotted
    rfl
  | case2 rest ih =>
    obtain ⟨m, later, rfl⟩ := Option.map_eq_some_iff.1 dotted
    rw [hasEscape, Bool.or_eq_false_iff] at bare
    rw [ih bare.2 later, List.replicate_succ]
  | case3 c rest letter _ =>
    have digit : (Json.hexValue? c).isSome = true := by
      rcases letter with rfl | rfl <;> decide
    have two : (Json.hexValue? '2').isSome = true := by decide
    rw [hasEscape, startsHex, two, digit] at bare
    cases bare
  | case4 => cases dotted
  | case5 => cases dotted

end Segments

def trail (cs : List Char) : List Char :=
  ((cs.reverse.dropWhile isControl).reverse).filter fun c => c != '\t' && c != '\n' && c != '\r'

theorem trail_sublist (cs : List Char) : (trail cs).Sublist cs := by
  unfold trail
  refine List.filter_sublist.trans ?_
  have within := (List.dropWhile_sublist (l := cs.reverse) isControl).reverse
  rw [List.reverse_reverse] at within
  exact within

theorem trail_append (front back : List Char) :
    trail (front ++ '/' :: back) =
      (front.filter fun c => c != '\t' && c != '\n' && c != '\r') ++ '/' :: trail back := by
  have solid : isControl '/' = false := by decide
  unfold trail
  rw [List.reverse_append, List.reverse_cons, List.append_assoc, List.singleton_append,
    dropWhile_append_stop solid, List.reverse_append, List.reverse_cons, List.reverse_reverse,
    List.append_assoc, List.singleton_append, List.filter_append,
    List.filter_cons_of_pos (by decide)]

/-- What is ignored in a text does not depend on what stands on the other side of a slash. -/
theorem clean_append (front back : List Char) :
    clean (front ++ '/' :: back) =
      ((front.dropWhile isControl).filter fun c => c != '\t' && c != '\n' && c != '\r') ++
        '/' :: trail back := by
  have solid : isControl '/' = false := by decide
  have trimmed : clean (front ++ '/' :: back) =
      trail ((front ++ '/' :: back).dropWhile isControl) := rfl
  rw [trimmed, dropWhile_append_stop solid, trail_append]

/-- A scheme in front of a slash is read whatever stands behind the slash. -/
theorem scheme?_append {front rest : List Char} {encrypted : Bool}
    (read : scheme? (front ++ ['/']) = some (encrypted, rest)) :
    ∃ middle, rest = middle ++ ['/'] ∧
      ∀ back, scheme? (front ++ '/' :: back) = some (encrypted, middle ++ '/' :: back) := by
  by_cases colon : ':' ∈ front
  · obtain ⟨name, middle, rfl, absent⟩ := List.eq_append_cons_of_mem colon
    have before : ∀ c ∈ name, (c != ':') = true := by
      intro c listed
      exact bne_iff_ne.2 fun same => absent (same ▸ listed)
    have taken : ∀ back, scheme? ((name ++ ':' :: middle) ++ '/' :: back) =
        if name.map Char.toLower = "http".toList then some (false, middle ++ '/' :: back)
        else if name.map Char.toLower = "https".toList then some (true, middle ++ '/' :: back)
        else none := by
      intro back
      unfold scheme?
      rw [List.append_assoc, List.cons_append, List.takeWhile_append_of_pos before,
        List.dropWhile_append_of_pos before, List.takeWhile_cons_of_neg (by decide),
        List.dropWhile_cons_of_neg (by decide), List.append_nil]
      rfl
    rw [taken] at read
    simp only [taken]
    refine ⟨middle, ?_⟩
    split at read
    · rename_i plain
      cases read
      exact ⟨rfl, fun back => if_pos plain⟩
    · rename_i plain
      split at read
      · rename_i secured
        cases read
        refine ⟨rfl, fun back => ?_⟩
        rw [if_neg plain, if_pos secured]
      · cases read
  · have all : ∀ c ∈ front ++ ['/'], (c != ':') = true := by
      intro c listed
      rcases List.mem_append.1 listed with inFront | slash
      · exact bne_iff_ne.2 fun same => colon (same ▸ inFront)
      · rw [List.mem_singleton.1 slash]
        decide
    unfold scheme? at read
    rw [dropWhile_of_forall all] at read
    cases read

def isPathPart (c : Char) : Bool := c != '?' && c != '#'

def onServer (encrypted : Bool) (host : List Char) (port : Option Nat) (cs : List Char) : Url where
  encrypted := encrypted
  host := host
  port := port
  path := pathOf (cs.takeWhile isPathPart)
  query := (behind? '?' (cs.dropWhile isPathPart)).map fun query =>
    percentEncode isQueryChar (query.takeWhile (· != '#'))
  fragment := (behind? '#' ((cs.dropWhile isPathPart).dropWhile (· != '#'))).map
    (percentEncode isFragmentChar)

theorem ofText?_eq_some {text : String} {url : Url} :
    ofText? text = some url ↔
      ∃ encrypted rest host port,
        scheme? (clean text.toList) = some (encrypted, rest) ∧
        authority? encrypted ((rest.dropWhile isSlash).takeWhile (!endsAuthority ·)) =
          some (host, port) ∧
        url = onServer encrypted host port
          ((rest.dropWhile isSlash).dropWhile (!endsAuthority ·)) := by
  unfold ofText?
  simp only [Option.bind_eq_bind, Option.bind_eq_some_iff, Prod.exists, Option.some.injEq]
  constructor
  · rintro ⟨encrypted, rest, schemed, host, port, served, rfl⟩
    exact ⟨encrypted, rest, host, port, schemed, served, rfl⟩
  · rintro ⟨encrypted, rest, host, port, schemed, served, rfl⟩
    exact ⟨encrypted, rest, schemed, host, port, served, rfl⟩

def extend (root : Url) (done : List (List Char)) (text : List Char) : Url :=
  { root with
    path := (resolveFrom done (splitSlashes (text.takeWhile isPathPart))).map
      (percentEncode isPathChar)
    query := (behind? '?' (text.dropWhile isPathPart)).map fun query =>
      percentEncode isQueryChar (query.takeWhile (· != '#'))
    fragment := (behind? '#' ((text.dropWhile isPathPart).dropWhile (· != '#'))).map
      (percentEncode isFragmentChar) }

theorem isPathPart_of_unmarked {cs : List Char}
    (noQuery : behind? '?' (cs.dropWhile isPathPart) = none)
    (noFragment : behind? '#' ((cs.dropWhile isPathPart).dropWhile (· != '#')) = none) :
    ∀ c ∈ cs, isPathPart c = true := by
  have nothing : cs.dropWhile isPathPart = [] := by
    cases left : cs.dropWhile isPathPart with
    | nil => rfl
    | cons c rest =>
      have some_left : cs.dropWhile isPathPart ≠ [] := by
        rw [left]
        exact List.cons_ne_nil c rest
      have marked := List.head_dropWhile_not isPathPart some_left
      simp only [left, List.head_cons] at marked
      rw [left] at noQuery noFragment
      unfold isPathPart at marked
      rw [Bool.and_eq_false_iff] at marked
      rcases marked with query | fragment
      · rw [bne_eq_false_iff_eq.1 query, behind?, if_pos rfl] at noQuery
        cases noQuery
      · rw [bne_eq_false_iff_eq.1 fragment, List.dropWhile_cons_of_neg (by decide), behind?,
          if_pos rfl] at noFragment
        cases noFragment
  have whole := List.takeWhile_append_dropWhile (p := isPathPart) (l := cs)
  rw [nothing, List.append_nil] at whole
  intro c listed
  rw [← whole] at listed
  exact List.all_eq_true.1 (List.all_takeWhile (p := isPathPart) (l := cs)) c listed

/-- A path that goes on behind a slash goes on behind the segments in front of it. -/
theorem pathOf_append {front : List Char} (rooted : ∀ c ∈ front.head?, isSlash c = true) :
    ∃ done, ∀ back, pathOf (front ++ '/' :: back) =
      (resolveFrom done (splitSlashes back)).map (percentEncode isPathChar) := by
  cases front with
  | nil => exact ⟨[], fun back => rfl⟩
  | cons c front =>
    have slash := rooted c rfl
    refine ⟨(splitSlashes front).foldl enter [], ?_⟩
    intro back
    unfold pathOf
    simp only [List.cons_append, slash, if_true]
    rw [splitSlashes_append, resolveFrom_append [] _ (splitSlashes_ne_nil back)]

/-- The name of a server in front of a slash ends there at the latest, whatever stands behind it. -/
theorem authority?_append {encrypted : Bool} {middle host : List Char} {port : Option Nat}
    (served : authority? encrypted
      (((middle ++ ['/']).dropWhile isSlash).takeWhile (!endsAuthority ·)) = some (host, port)) :
    ∃ front, (∀ c ∈ front.head?, endsAuthority c = true) ∧
      ∀ back,
        authority? encrypted
            (((middle ++ '/' :: back).dropWhile isSlash).takeWhile (!endsAuthority ·)) =
          some (host, port) ∧
        ((middle ++ '/' :: back).dropWhile isSlash).dropWhile (!endsAuthority ·) =
          front ++ '/' :: back := by
  -- The name is not empty, so the slash at the end is none of those in front of it.
  have named : middle.dropWhile isSlash ≠ [] := by
    intro nothing
    have slashes : (middle ++ ['/']).dropWhile isSlash = [] := by
      rw [List.dropWhile_append, nothing]
      rfl
    rw [slashes] at served
    cases served
  have begins : ∀ back, (middle ++ '/' :: back).dropWhile isSlash =
      middle.dropWhile isSlash ++ '/' :: back := by
    intro back
    rw [List.dropWhile_append, if_neg (by simpa using named)]
  have stops : (!endsAuthority '/') = false := by decide
  rw [begins, takeWhile_append_stop stops] at served
  refine ⟨(middle.dropWhile isSlash).dropWhile (!endsAuthority ·), ?_, ?_⟩
  · intro c first
    obtain ⟨back, split⟩ := List.head?_eq_some_iff.1 first
    have some_left : (middle.dropWhile isSlash).dropWhile (!endsAuthority ·) ≠ [] := by
      rw [split]
      exact List.cons_ne_nil c back
    have stop := List.head_dropWhile_not (!endsAuthority ·) some_left
    simpa [split] using stop
  · intro back
    rw [begins, takeWhile_append_stop stops, dropWhile_append_stop stops]
    exact ⟨served, rfl⟩

/-- Behind a path without query and fragment, a text goes on in the place of that path. -/
theorem onServer_append {encrypted : Bool} {host front : List Char} {port : Option Nat}
    (ends : ∀ c ∈ front.head?, endsAuthority c = true)
    (noQuery : (onServer encrypted host port (front ++ ['/'])).query = none)
    (noFragment : (onServer encrypted host port (front ++ ['/'])).fragment = none) :
    ∃ done,
      (onServer encrypted host port (front ++ ['/'])).path.dropLast =
        done.reverse.map (percentEncode isPathChar) ∧
      ∀ back, onServer encrypted host port (front ++ '/' :: back) =
        (onServer encrypted host port (front ++ ['/'])).extend done back := by
  have parts : ∀ c ∈ front ++ ['/'], isPathPart c = true :=
    isPathPart_of_unmarked (Option.map_eq_none_iff.1 noQuery) (Option.map_eq_none_iff.1 noFragment)
  have slash : ∀ c ∈ front.head?, isSlash c = true := by
    intro c first
    have part := parts c (List.mem_append_left _ (List.mem_of_mem_head? first))
    have ending := ends c first
    simp only [isPathPart, Bool.and_eq_true, bne_iff_ne] at part
    simpa [endsAuthority, part.1, part.2] using ending
  obtain ⟨done, paths⟩ := pathOf_append slash
  refine ⟨done, ?_, ?_⟩
  · have whole := takeWhile_of_forall parts
    have nowhere : IsPlace [] := by decide
    unfold onServer
    simp only [whole, paths, splitSlashes, resolveFrom_singleton nowhere, List.map_append,
      List.map_cons, List.map_nil, List.dropLast_concat]
  · intro back
    have front_parts : ∀ c ∈ front, isPathPart c = true := fun c listed =>
      parts c (List.mem_append_left _ listed)
    have slash_part : isPathPart '/' = true := by decide
    unfold onServer extend
    simp only [List.takeWhile_append_of_pos front_parts, List.dropWhile_append_of_pos front_parts,
      List.takeWhile_cons_of_pos slash_part, List.dropWhile_cons_of_pos slash_part, paths]

/-- Where a base with a slash behind it is an address, so is each text that goes on behind that
slash: on the same server, in the place of the base. -/
theorem ofText?_append {base : List Char} {root : Url}
    (rooted : ofText? (String.ofList (base ++ ['/'])) = some root) (noQuery : root.query = none)
    (noFragment : root.fragment = none) :
    ∃ done, root.path.dropLast = done.reverse.map (percentEncode isPathChar) ∧
      ∀ text, ofText? (String.ofList (base ++ '/' :: text)) =
        some (root.extend done (trail text)) := by
  obtain ⟨encrypted, rest, host, port, schemed, served, rfl⟩ := ofText?_eq_some.1 rooted
  rw [String.toList_ofList, clean_append] at schemed
  obtain ⟨middle, rfl, schemes⟩ := scheme?_append schemed
  obtain ⟨front, ends, servers⟩ := authority?_append served
  rw [(servers []).2] at noQuery noFragment ⊢
  obtain ⟨done, based, texts⟩ := onServer_append ends noQuery noFragment
  refine ⟨done, based, ?_⟩
  intro text
  rw [ofText?_eq_some, String.toList_ofList, clean_append, ← texts, ← (servers (trail text)).2]
  exact ⟨_, _, _, _, schemes (trail text), (servers (trail text)).1, rfl⟩

end RhythmBot.Http.Url
