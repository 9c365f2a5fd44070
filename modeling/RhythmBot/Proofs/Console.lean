import RhythmBot.Console
import RhythmBot.Proofs.Text.Spacing
/-!
Lines of the console. Main statement: a line is read as the longest run of tags in front of it, the
last one of each kind for the origin, and what is behind them for the body; so an origin and a body
that are written as a line are read again.
-/

namespace RhythmBot.Console

open Text

/-- A token in front of a line that says something of the origin of the message. -/
inductive Tag where
  | sender (name : String)
  | room (name : String)
  | replyTo (name : String)
  deriving DecidableEq

namespace Tag

def name : Tag → String
  | sender name => name
  | room name => name
  | replyTo name => name

def text : Tag → String
  | sender name => "@" ++ name
  | room name => "#" ++ name
  | replyTo name => "^" ++ name

def sender? : Tag → Option String
  | sender name => some name
  | _ => none

def room? : Tag → Option String
  | room name => some name
  | _ => none

def replyTo? : Tag → Option String
  | replyTo name => some name
  | _ => none

def apply (origin : Origin) : Tag → Origin
  | sender name => { origin with sender := "@" ++ name }
  | room name => { origin with room := some name }
  | replyTo name => { origin with replyTo := some ("@" ++ name) }

def all (sender room replyTo : Option String) : List Tag :=
  (sender.map Tag.sender).toList ++ (room.map Tag.room).toList ++ (replyTo.map Tag.replyTo).toList

def mark : Tag → Char
  | sender _ => '@'
  | room _ => '#'
  | replyTo _ => '^'

theorem toList_text (tag : Tag) : tag.text.toList = tag.mark :: tag.name.toList := by
  cases tag <;> simp [text, mark, name]

theorem eq_of_text {first second : Tag} (same : first.text = second.text) : first = second := by
  have letters := congrArg String.toList same
  rw [toList_text, toList_text, List.cons.injEq, String.toList_inj] at letters
  obtain ⟨marks, names⟩ := letters
  cases first <;> cases second <;> simp_all [mark, name]

theorem mark_solid (tag : Tag) : isBlank tag.mark = false := by
  cases tag <;> rfl

theorem solid_text {tag : Tag} (isWord : IsWord tag.name) :
    ∀ c ∈ tag.text.toList, isBlank c = false := by
  rw [toList_text, List.forall_mem_cons]
  exact ⟨tag.mark_solid, isWord.2⟩

end Tag

/-- The origin that tags say: of each kind the last one counts. -/
def originOf (defaultSender : String) (tags : List Tag) : Origin where
  room := (tags.filterMap Tag.room?).getLast?
  sender := ((tags.filterMap Tag.sender?).getLast?.map ("@" ++ ·)).getD defaultSender
  replyTo := (tags.filterMap Tag.replyTo?).getLast?.map ("@" ++ ·)

/-- A line as tags in front of a rest: blanks may stand in front of each tag, and each ends at a blank
or with the line. -/
inductive Tagged : List Tag → List Char → List Char → Prop
  | nil {rest : List Char} : Tagged [] rest rest
  | cons {gap behind rest : List Char} {tag : Tag} {later : List Tag} :
      (∀ c ∈ gap, isBlank c = true) → IsWord tag.name → (∀ c ∈ behind.head?, isBlank c = true) →
      Tagged later behind rest → Tagged (tag :: later) (gap ++ tag.text.toList ++ behind) rest

/-- How a line is read: as its longest run of tags and the body behind it. -/
inductive Reads (defaultSender : String) (line : List Char) : Message → Prop
  | of {tags : List Tag} {rest : List Char} :
      Tagged tags line rest → (∀ others behind, Tagged others line behind → others <+: tags) →
      Reads defaultSender line ⟨String.ofList (strip rest), originOf defaultSender tags⟩

def Untagged (cs : List Char) : Prop :=
  ∀ tag behind, ¬ Tagged [tag] cs behind

variable {tags others : List Tag} {line rest behind : List Char}

theorem Tagged.append (first : Tagged tags line rest) (second : Tagged others rest behind) :
    Tagged (tags ++ others) line behind := by
  induction first with
  | nil => exact second
  | cons blank isWord ends _ ih => exact .cons blank isWord ends (ih second)

theorem Tagged.length_lt {tag : Tag} (tagged : Tagged [tag] line rest) :
    rest.length < line.length := by
  cases tagged with
  | cons _ _ _ none =>
    cases none
    rw [List.length_append, List.length_append, Tag.toList_text, List.length_cons]
    omega

section Front

variable {tag : Tag}

theorem dropBlanks_gap {gap : List Char} (blank : ∀ c ∈ gap, isBlank c = true) (tag : Tag)
    (behind : List Char) :
    dropBlanks (gap ++ tag.text.toList ++ behind) = tag.text.toList ++ behind := by
  unfold dropBlanks
  rw [List.append_assoc, List.dropWhile_append_of_pos blank, Tag.toList_text, List.cons_append,
    List.dropWhile_cons_of_neg (by rw [tag.mark_solid]; exact Bool.false_ne_true)]

theorem frontToken_text (isWord : IsWord tag.name) (ends : ∀ c ∈ behind.head?, isBlank c = true) :
    frontToken (tag.text.toList ++ behind) = tag.text.toList := by
  have solid : ∀ c ∈ tag.text.toList, (!isBlank c) = true := by
    simpa using Tag.solid_text isWord
  unfold frontToken
  rw [List.takeWhile_append_of_pos solid]
  cases behind with
  | nil => rw [List.takeWhile_nil, List.append_nil]
  | cons c later =>
    have blank : isBlank c = true := ends c rfl
    rw [List.takeWhile_cons_of_neg (by simp [blank]), List.append_nil]

theorem behindToken_text (isWord : IsWord tag.name)
    (ends : ∀ c ∈ behind.head?, isBlank c = true) :
    behindToken (tag.text.toList ++ behind) = dropBlanks behind := by
  have solid : ∀ c ∈ tag.text.toList, (!isBlank c) = true := by
    simpa using Tag.solid_text isWord
  unfold behindToken
  rw [List.dropWhile_append_of_pos solid]
  cases behind with
  | nil => rfl
  | cons c later =>
    have blank : isBlank c = true := ends c rfl
    rw [List.dropWhile_cons_of_neg (by simp [blank])]

theorem markedOrigin?_eq_some {origin later : Origin} {token : List Char} :
    markedOrigin? origin token = some later ↔
      ∃ tag : Tag, tag.name ≠ "" ∧ token = tag.text.toList ∧ later = tag.apply origin := by
  have written : ∀ cs, String.ofList ('@' :: cs) = "@" ++ String.ofList cs := by
    intro cs
    rw [← String.toList_inj]
    simp
  constructor
  · intro marked
    unfold markedOrigin? at marked
    split at marked
    · rename_i c name
      cases marked
      refine ⟨.sender (String.ofList (c :: name)), by simp [Tag.name], by simp [Tag.text], ?_⟩
      rw [written]
      rfl
    · rename_i c name
      cases marked
      exact ⟨.room (String.ofList (c :: name)), by simp [Tag.name], by simp [Tag.text], rfl⟩
    · rename_i c name
      cases marked
      refine ⟨.replyTo (String.ofList (c :: name)), by simp [Tag.name], by simp [Tag.text], ?_⟩
      rw [written]
      rfl
    · cases marked
  · rintro ⟨tag, named, rfl, rfl⟩
    have spelled : String.ofList tag.name.toList = tag.name := String.ofList_toList
    rw [Tag.toList_text]
    cases letters : tag.name.toList with
    | nil => exact absurd (String.toList_eq_nil_iff.1 letters) named
    | cons c name =>
      rw [letters] at spelled
      cases tag with
      | sender => simp only [Tag.mark, markedOrigin?, Tag.apply, written, spelled, Tag.name]
      | room => simp only [Tag.mark, markedOrigin?, Tag.apply, spelled, Tag.name]
      | replyTo => simp only [Tag.mark, markedOrigin?, Tag.apply, written, spelled, Tag.name]

theorem readFrom_marked {origin later : Origin} {cs : List Char}
    (marked : markedOrigin? origin (frontToken cs) = some later) :
    readFrom origin cs = readFrom later (behindToken cs) := by
  rw [readFrom]
  split
  · rename_i other found
    rw [marked] at found
    cases found
    rfl
  · rename_i none
    rw [marked] at none
    cases none

theorem readFrom_unmarked {origin : Origin} {cs : List Char}
    (unmarked : markedOrigin? origin (frontToken cs) = none) :
    readFrom origin cs = ⟨String.ofList (dropEndBlanks cs), origin⟩ := by
  rw [readFrom]
  split
  · rename_i other found
    rw [unmarked] at found
    cases found
  · rfl

theorem exists_tagged {origin later : Origin} {cs : List Char}
    (marked : markedOrigin? origin (frontToken (dropBlanks cs)) = some later) :
    ∃ tag behind, Tagged [tag] cs behind := by
  obtain ⟨tag, named, token, _⟩ := markedOrigin?_eq_some.1 marked
  have solid : ∀ c ∈ frontToken (dropBlanks cs), isBlank c = false := by
    intro c member
    simpa using List.all_eq_true.1 List.all_takeWhile c member
  have parts : cs = cs.takeWhile isBlank ++ frontToken (dropBlanks cs) ++
      (dropBlanks cs).dropWhile fun c => !isBlank c := by
    rw [List.append_assoc, frontToken, List.takeWhile_append_dropWhile, dropBlanks,
      List.takeWhile_append_dropWhile]
  rw [token] at solid parts
  have isWord : IsWord tag.name := by
    refine ⟨fun empty => named (String.toList_eq_nil_iff.1 empty), fun c member => solid c ?_⟩
    rw [Tag.toList_text]
    exact .tail _ member
  have blank : ∀ c ∈ cs.takeWhile isBlank, isBlank c = true :=
    List.all_eq_true.1 List.all_takeWhile
  have ends : ∀ c ∈ ((dropBlanks cs).dropWhile fun c => !isBlank c).head?, isBlank c = true := by
    intro c front
    have stopped := List.head?_dropWhile_not (fun c => !isBlank c) (dropBlanks cs)
    rw [Option.mem_def.1 front] at stopped
    simpa using stopped
  have tagged := Tagged.cons blank isWord ends .nil
  rw [← parts] at tagged
  exact ⟨tag, _, tagged⟩

end Front

/-- The tags in front of a line mark the origin one after the other. -/
theorem readFrom_tagged (tagged : Tagged tags line rest) (untagged : Untagged rest)
    (origin : Origin) :
    readFrom origin (dropBlanks line) =
      ⟨String.ofList (strip rest), tags.foldl Tag.apply origin⟩ := by
  induction tagged generalizing origin with
  | nil =>
    apply readFrom_unmarked
    cases marked : markedOrigin? origin (frontToken (dropBlanks _)) with
    | none => rfl
    | some later =>
      obtain ⟨tag, behind, tagged⟩ := exists_tagged marked
      exact absurd tagged (untagged tag behind)
  | @cons gap behind rest tag later blank isWord ends _ ih =>
    have named : tag.name ≠ "" := fun empty => isWord.1 (String.toList_eq_nil_iff.2 empty)
    have marked : markedOrigin? origin (frontToken (tag.text.toList ++ behind)) =
        some (tag.apply origin) := by
      rw [frontToken_text isWord ends]
      exact markedOrigin?_eq_some.2 ⟨tag, named, rfl, rfl⟩
    rw [dropBlanks_gap blank, readFrom_marked marked, behindToken_text isWord ends,
      ih untagged, List.foldl_cons]

theorem exists_run (line : List Char) : ∃ tags rest, Tagged tags line rest ∧ Untagged rest := by
  by_cases front : ∃ tag behind, Tagged [tag] line behind
  · obtain ⟨tag, behind, front⟩ := front
    have shorter := front.length_lt
    obtain ⟨tags, rest, tagged, untagged⟩ := exists_run behind
    exact ⟨tag :: tags, rest, front.append tagged, untagged⟩
  · exact ⟨[], line, .nil, fun tag behind tagged => front ⟨tag, behind, tagged⟩⟩
termination_by line.length

/-- The tags in front of a line are the first ones of its longest run. -/
theorem Tagged.prefix_of_untagged (tagged : Tagged tags line rest) (untagged : Untagged rest)
    (other : Tagged others line behind) : others <+: tags := by
  induction tagged generalizing others with
  | nil =>
    cases other with
    | nil => exact List.nil_prefix
    | cons blank isWord ends _ => exact absurd (.cons blank isWord ends .nil) (untagged _ _)
  | @cons gap after rest tag later blank isWord ends _ ih =>
    generalize same : gap ++ tag.text.toList ++ after = line at other
    cases other with
    | nil => exact List.nil_prefix
    | @cons otherGap otherAfter _ otherTag otherLater alsoBlank alsoWord alsoEnds later =>
      -- Behind the blanks both runs start with the same token, so they agree on the tag and go on alike.
      have dropped := congrArg dropBlanks same
      rw [dropBlanks_gap blank, dropBlanks_gap alsoBlank] at dropped
      have token := congrArg frontToken dropped
      rw [frontToken_text isWord ends, frontToken_text alsoWord alsoEnds, String.toList_inj] at token
      cases Tag.eq_of_text token
      cases List.append_cancel_left dropped
      exact List.cons_prefix_cons.2 ⟨rfl, ih untagged later⟩

theorem untagged_of_longest (tagged : Tagged tags line rest)
    (longest : ∀ others behind, Tagged others line behind → others <+: tags) : Untagged rest := by
  intro tag behind front
  have bound := (longest _ _ (tagged.append front)).length_le
  rw [List.length_append, List.length_singleton] at bound
  omega

theorem foldl_apply (origin : Origin) (tags : List Tag) :
    tags.foldl Tag.apply origin =
      ⟨(tags.filterMap Tag.room?).getLast? <|> origin.room,
        ((tags.filterMap Tag.sender?).getLast?.map ("@" ++ ·)).getD origin.sender,
        (tags.filterMap Tag.replyTo?).getLast?.map ("@" ++ ·) <|> origin.replyTo⟩ := by
  induction tags generalizing origin with
  | nil => simp
  | cons tag later ih =>
    rw [List.foldl_cons, ih]
    cases tag with
    | sender name =>
      cases last : (later.filterMap Tag.sender?).getLast? <;>
        simp [Tag.apply, Tag.room?, Tag.sender?, Tag.replyTo?, List.getLast?_cons, last]
    | room name =>
      cases last : (later.filterMap Tag.room?).getLast? <;>
        simp [Tag.apply, Tag.room?, Tag.sender?, Tag.replyTo?, List.getLast?_cons, last]
    | replyTo name =>
      cases last : (later.filterMap Tag.replyTo?).getLast? <;>
        simp [Tag.apply, Tag.room?, Tag.sender?, Tag.replyTo?, List.getLast?_cons, last]

theorem readLine_tagged {defaultSender text : String} (tagged : Tagged tags text.toList rest)
    (untagged : Untagged rest) :
    readLine defaultSender text = ⟨String.ofList (strip rest), originOf defaultSender tags⟩ := by
  rw [readLine, readFrom_tagged tagged untagged, foldl_apply]
  simp [originOf]

/-- Tags say the same origin in any order if there is at most one of each kind. -/
theorem originOf_perm (defaultSender : String) {sender room replyTo : Option String}
    (order : tags.Perm (Tag.all sender room replyTo)) :
    originOf defaultSender tags =
      ⟨room, (sender.map ("@" ++ ·)).getD defaultSender, replyTo.map ("@" ++ ·)⟩ := by
  have single : ∀ {pick : Tag → Option String} {kept : Option String},
      (Tag.all sender room replyTo).filterMap pick = kept.toList →
        (tags.filterMap pick).getLast? = kept := by
    intro pick kept picked
    have same := order.filterMap pick
    rw [picked] at same
    cases kept with
    | none => rw [List.perm_nil.1 same]; rfl
    | some name => rw [List.perm_singleton.1 same]; rfl
  have rooms : (tags.filterMap Tag.room?).getLast? = room := by
    apply single
    cases sender <;> cases room <;> cases replyTo <;> rfl
  have senders : (tags.filterMap Tag.sender?).getLast? = sender := by
    apply single
    cases sender <;> cases room <;> cases replyTo <;> rfl
  have replied : (tags.filterMap Tag.replyTo?).getLast? = replyTo := by
    apply single
    cases sender <;> cases room <;> cases replyTo <;> rfl
  rw [originOf, rooms, senders, replied]

/-- A line that is tags in front of a body with blanks around it. -/
def Writes (tags : List Tag) (body line : String) : Prop :=
  ∃ rest, Tagged tags line.toList rest ∧ strip rest = body.toList

theorem Tagged.cons_blank {c : Char} (blank : isBlank c = true) (tagged : Tagged tags line rest) :
    ∃ behind, Tagged tags (c :: line) behind ∧ strip behind = strip rest := by
  cases tagged with
  | nil => exact ⟨_, .nil, by rw [strip, dropBlanks, List.dropWhile_cons_of_pos blank]; rfl⟩
  | @cons gap _ _ _ _ others isWord ends later =>
    have wider : ∀ other ∈ c :: gap, isBlank other = true := by
      rw [List.forall_mem_cons]
      exact ⟨blank, others⟩
    exact ⟨_, .cons wider isWord ends later, rfl⟩

theorem exists_writes {body : String} (named : ∀ tag ∈ tags, IsWord tag.name)
    (trimmed : trim body = body) : ∃ line, Writes tags body line := by
  induction tags with
  | nil =>
    have same := congrArg String.toList trimmed
    rw [trim, String.toList_ofList] at same
    exact ⟨body, _, .nil, same⟩
  | cons tag later ih =>
    rw [List.forall_mem_cons] at named
    obtain ⟨line, rest, tagged, stripped⟩ := ih named.2
    obtain ⟨behind, spaced, same⟩ := tagged.cons_blank (by decide : isBlank ' ' = true)
    have none : ∀ c ∈ ([] : List Char), isBlank c = true := by simp
    have ends : ∀ c ∈ (' ' :: line.toList).head?, isBlank c = true := by
      rintro c ⟨⟩
      rfl
    have front := Tagged.cons none named.1 ends spaced
    refine ⟨tag.text ++ " " ++ line, behind, ?_, same.trans stripped⟩
    simpa using front

/-- A text whose first word is no tag has none in front. -/
theorem untagged_of_words {body : String} {rest : List Char} (stripped : strip rest = body.toList)
    (other : ∀ tag : Tag, IsWord tag.name → (words body).head? ≠ some tag.text) : Untagged rest := by
  rintro tag behind (_ | ⟨blank, isWord, ends, _⟩)
  apply other tag isWord
  have solid := Tag.solid_text isWord
  have filled : tag.text.toList ≠ [] := by simp [Tag.toList_text]
  rw [words, ← stripped, chunks_strip, List.append_assoc, chunks_blanks_append blank,
    chunks_run_append filled solid ends, List.map_cons, List.head?_cons, String.ofList_toList]

theorem readLine_eq_iff {defaultSender text : String} {message : Message} :
    readLine defaultSender text = message ↔ Reads defaultSender text.toList message := by
  constructor
  · rintro rfl
    obtain ⟨tags, rest, tagged, untagged⟩ := exists_run text.toList
    rw [readLine_tagged tagged untagged]
    exact .of tagged fun _ _ => tagged.prefix_of_untagged untagged
  · intro reads
    cases reads with
    | of tagged longest => exact readLine_tagged tagged (untagged_of_longest tagged longest)

/-- A line is read as its longest run of tags and the body behind it. Whatever the order of the tags
that say an origin and the blanks around them, a line of them in front of a body that starts with no
tag is read as this origin and body; and there is such a line. -/
theorem readLine_reads (defaultSender : String) :
    (∀ line message, readLine defaultSender line = message ↔
      Reads defaultSender line.toList message) ∧
    ∀ (sender room replyTo : Option String) (order : List Tag) (body : String),
      order.Perm (Tag.all sender room replyTo) → (∀ tag ∈ order, IsWord tag.name) →
      trim body = body →
      (∀ tag : Tag, IsWord tag.name → (words body).head? ≠ some tag.text) →
      (∃ line, Writes order body line) ∧
        ∀ line, Writes order body line →
          readLine defaultSender line =
            ⟨body, room, (sender.map ("@" ++ ·)).getD defaultSender, replyTo.map ("@" ++ ·)⟩ := by
  refine ⟨fun line message => readLine_eq_iff, ?_⟩
  intro sender room replyTo order body ordered named trimmed other
  refine ⟨exists_writes named trimmed, ?_⟩
  rintro line ⟨rest, tagged, stripped⟩
  rw [readLine_tagged tagged (untagged_of_words stripped other), stripped, String.ofList_toList,
    originOf_perm defaultSender ordered]

/-- A room and the sender of a message replied to, in front of a body that has a tag inside. -/
theorem readLine_reads_reply :
    Writes [.replyTo "bob", .room "-100"] "!ex user  @ann" "^bob\t#-100  !ex user  @ann " ∧
      readLine "@me" "^bob\t#-100  !ex user  @ann " =
        ⟨"!ex user  @ann", some "-100", "@me", some "@bob"⟩ := by
  have written : Writes [.replyTo "bob", .room "-100"] "!ex user  @ann"
      "^bob\t#-100  !ex user  @ann " := by
    have none : ∀ c ∈ ([] : List Char), isBlank c = true := by simp
    have tab : ∀ c ∈ ['\t'], isBlank c = true := List.forall_mem_singleton.2 rfl
    refine ⟨"  !ex user  @ann ".toList, ?_, by decide⟩
    exact .cons none (by decide) (by rintro c ⟨⟩; rfl)
      (.cons tab (by decide) (by rintro c ⟨⟩; rfl) .nil)
  have read := (readLine_reads "@me").2 none (some "-100") (some "bob")
    [.replyTo "bob", .room "-100"] "!ex user  @ann" (by decide) (by decide) (by decide) ?_
  · exact ⟨written, read.2 _ written⟩
  · intro tag _ front
    have same : "!ex" = tag.text := Option.some.inj front
    have letters := congrArg String.toList same
    rw [Tag.toList_text] at letters
    cases tag <;> cases (List.cons.inj letters).1

end RhythmBot.Console
