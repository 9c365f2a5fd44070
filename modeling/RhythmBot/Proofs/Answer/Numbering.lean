import Mathlib.Data.List.Forall2
import Mathlib.Data.List.Induction
import RhythmBot.Proofs.Answer.Ending
import RhythmBot.Proofs.Command
import RhythmBot.Proofs.CommandLine
import RhythmBot.Proofs.Report
/-!
The plays that a reply shows and the buttons that draw them. Main statement: lines and buttons are
numbered alike, also where a play without an id has a line and no button.
-/

namespace RhythmBot

def scoreIdAt? (plays : List Score) (place : Nat) : Option String :=
  plays[place]?.bind Score.scoreId

def identified (plays : List Score) : List Nat :=
  (List.range plays.length).filter fun place => (scoreIdAt? plays place).isSome

section Places

variable {plays : List Score} {place : Nat}

theorem scoreIdAt?_concat_of_lt (within : place < plays.length) (play : Score) :
    scoreIdAt? (plays ++ [play]) place = scoreIdAt? plays place := by
  unfold scoreIdAt?
  rw [List.getElem?_append_left within]

theorem scoreIdAt?_concat_length (plays : List Score) (play : Score) :
    scoreIdAt? (plays ++ [play]) plays.length = play.scoreId := by
  unfold scoreIdAt?
  rw [List.getElem?_concat_length, Option.bind_some]

theorem lt_length_of_scoreIdAt? {scoreId : String} (named : scoreIdAt? plays place = some scoreId) :
    place < plays.length := by
  obtain ⟨play, there, _⟩ := Option.bind_eq_some_iff.1 named
  exact (List.getElem?_eq_some_iff.1 there).1

theorem identified_concat (plays : List Score) (play : Score) :
    identified (plays ++ [play]) =
      identified plays ++ (play.scoreId.map fun _ => plays.length).toList := by
  unfold identified
  rw [List.length_append, List.length_singleton, List.range_succ, List.filter_append]
  congr 1
  · apply List.filter_congr
    intro place listed
    rw [scoreIdAt?_concat_of_lt (List.mem_range.1 listed)]
  · rw [List.filter_singleton, scoreIdAt?_concat_length]
    cases play.scoreId <;> rfl

theorem identified_eq_nil : identified plays = [] ↔ ∀ play ∈ plays, play.scoreId = none := by
  unfold identified
  rw [List.filter_eq_nil_iff]
  constructor
  · intro unnamed play listed
    obtain ⟨place, there⟩ := List.mem_iff_getElem?.1 listed
    have bounded := (List.getElem?_eq_some_iff.1 there).1
    have missing := unnamed place (List.mem_range.2 bounded)
    rw [scoreIdAt?, there, Option.bind_some] at missing
    exact Option.not_isSome_iff_eq_none.1 missing
  · intro unnamed place listed
    rw [scoreIdAt?, List.getElem?_eq_getElem (List.mem_range.1 listed), Option.bind_some,
      unnamed _ (List.getElem_mem _)]
    simp

end Places

namespace Context

variable {context : Context} {plays : List Score} {others row : List Button} {reply : Reply}

def canDraw (context : Context) : Bool :=
  context.renderer.isSome && context.server.capabilities.scoreById

def drawButton (context : Context) (line : Nat) (scoreId : String) : Button :=
  ⟨context.text "button_render" [("index", toString line)],
    CommandLine.write context.mark context.server.primaryAlias Command.render.name
      [context.mode.name, scoreId]⟩

theorem read?_drawButton (solid : Text.isBlank context.mark = false)
    (word : Text.IsWord context.server.primaryAlias) (line : Nat) (scoreId : String) :
    CommandLine.read? context.mark (context.drawButton line scoreId).command =
      some ⟨context.server.primaryAlias, some Command.render.name,
        context.mode.name :: Text.words scoreId⟩ := by
  rw [drawButton, CommandLine.read?_write solid word (Command.isWord_name .render),
    List.flatMap_cons, List.flatMap_singleton, Text.words_of_isWord context.mode.isWord_name,
    List.singleton_append]

/-- A row has a button for each play with an id, in their order, and no other. A button has the number
of the line of its play and names the play in the mode of the command. -/
def Draws (context : Context) (plays : List Score) (row : List Button) : Prop :=
  List.Forall₂ (fun place button => ∃ scoreId, scoreIdAt? plays place = some scoreId ∧
    button = context.drawButton (place + 1) scoreId) (identified plays) row

theorem Draws.concat (drawing : context.Draws plays row) (play : Score) :
    context.Draws (plays ++ [play])
      (row ++ (play.scoreId.map (context.drawButton (plays.length + 1))).toList) := by
  unfold Draws
  rw [identified_concat]
  apply List.rel_append
  · refine List.Forall₂.imp ?_ drawing
    rintro place button ⟨scoreId, named, rfl⟩
    refine ⟨scoreId, ?_, rfl⟩
    rw [scoreIdAt?_concat_of_lt (lt_length_of_scoreIdAt? named), named]
  · cases named : play.scoreId with
    | none => exact .nil
    | some scoreId =>
      refine .cons ⟨scoreId, ?_, rfl⟩ .nil
      rw [scoreIdAt?_concat_length, named]

theorem Draws.eq_nil_iff (drawing : context.Draws plays row) :
    row = [] ↔ ∀ play ∈ plays, play.scoreId = none := by
  rw [← identified_eq_nil]
  constructor
  · rintro rfl
    exact List.forall₂_nil_right_iff.1 drawing
  · intro nowhere
    rw [Draws, nowhere] at drawing
    exact List.forall₂_nil_left_iff.1 drawing

theorem renderButton?_of_canDraw (drawn : context.canDraw = true) (play : Score) (line : Nat) :
    context.renderButton? play line = play.scoreId.map (context.drawButton line) := by
  unfold canDraw at drawn
  unfold renderButton?
  rw [if_pos drawn]
  rfl

theorem renderButton?_of_not_canDraw (undrawn : context.canDraw = false) (play : Score) (line : Nat) :
    context.renderButton? play line = none := by
  unfold canDraw at undrawn
  unfold renderButton?
  rw [if_neg (Bool.eq_false_iff.1 undrawn)]

theorem draws_playButtons (drawn : context.canDraw = true) (plays : List Score) :
    context.Draws plays (Answer.playButtons context plays) := by
  -- From the last play on, so that the numbers of the others stay.
  induction plays using List.reverseRecOn with
  | nil => exact .nil
  | append_singleton plays play ih =>
    have buttons : Answer.playButtons context (plays ++ [play]) =
        Answer.playButtons context plays ++
          (play.scoreId.map (context.drawButton (plays.length + 1))).toList := by
      unfold Answer.playButtons
      rw [List.mapIdx_concat, List.filterMap_append, renderButton?_of_canDraw drawn]
      cases play.scoreId <;> rfl
    rw [buttons]
    exact ih.concat play

theorem draws_renderButton? (drawn : context.canDraw = true) (play : Score) :
    context.Draws [play] (context.renderButton? play 1).toList := by
  rw [renderButton?_of_canDraw drawn]
  have first : context.Draws [] [] := .nil
  exact first.concat play

theorem playButtons_of_not_canDraw (undrawn : context.canDraw = false) (plays : List Score) :
    Answer.playButtons context plays = [] := by
  unfold Answer.playButtons
  rw [List.filterMap_eq_nil_iff]
  intro button listed
  obtain ⟨place, _, rfl⟩ := List.mem_mapIdx.1 listed
  exact renderButton?_of_not_canDraw undrawn _ _

/-- A reply shows plays: below a header in the mode of the command each has a line with its number and
its values, and behind other buttons those that draw the plays are in the only row, if any button is
there. -/
structure Numbers (context : Context) (plays : List Score) (others row : List Button)
    (reply : Reply) : Prop where
  lines : plays ≠ [] → ∃ key parameters lines, ("mode", context.mode.name) ∈ parameters ∧
    reply.text = context.text key parameters ++ "\n\n" ++ "\n".intercalate lines ∧
    Report.Lines (Report.WritesScore context.catalog) plays lines
  drawn : context.canDraw = true → context.Draws plays row
  undrawn : context.canDraw = false → row = []
  single : reply.buttons = if others ++ row = [] then [] else [others ++ row]

theorem Numbers.buttons_eq_nil_iff (numbers : context.Numbers plays [] row reply) :
    reply.buttons = [] ↔ context.canDraw = false ∨ ∀ play ∈ plays, play.scoreId = none := by
  have rowless : reply.buttons = [] ↔ row = [] := by
    rw [numbers.single, List.nil_append]
    by_cases empty : row = [] <;> simp [empty]
  rw [rowless]
  cases drawn : context.canDraw with
  | false => simp [numbers.undrawn drawn]
  | true => simp [(numbers.drawn drawn).eq_nil_iff]

theorem numbers_page {key : String} {parameters : Parameters}
    (moded : ("mode", context.mode.name) ∈ parameters)
    (drawn : context.canDraw = true → context.Draws plays row)
    (undrawn : context.canDraw = false → row = []) :
    context.Numbers plays others row
      ((Reply.ofText (Report.scores context.catalog (context.text key parameters) plays)).withRow
        (others ++ row)) where
  lines _ := by
    obtain ⟨lines, shown, written⟩ :=
      Report.scores_lines context.catalog (context.text key parameters) plays
    refine ⟨key, parameters, lines, moded, ?_, written⟩
    rw [← shown]
    unfold Reply.withRow
    split <;> rfl
  drawn := drawn
  undrawn := undrawn
  single := by
    unfold Reply.withRow
    simp only [List.isEmpty_iff]
    split <;> rfl

/-- The buttons in front of those that draw the plays of a command: a single play has the one for the
leaderboard of its beatmap. -/
def boardButtons (context : Context) : Command → List Score → List Button
  | .top, _ => []
  | _, plays =>
    (plays.head?.bind fun play => context.leaderboardButton? play.beatmapId).toList

end Context

namespace Answer

variable {context : Context} {before after : Books} {command : Command} {outcome : Outcome Reply}
  {mode : Mode} {plays : List Score}

/-- The plays that a server gives to a command that shows plays: the best ones of a player, the most
recent one, or the one of an id. -/
inductive Given (remote : Remote) (mode : Mode) (calls : List Call) : Command → List Score → Prop
  | top {query : PlayerQuery} {limit : Nat} {plays : List Score} :
      Call.top query mode limit ∈ calls →
      remote.top query mode limit = .ok plays →
      Given remote mode calls .top plays
  | recent {query : PlayerQuery} {play : Score} {older : List Score} :
      Call.recent query mode ∈ calls →
      remote.recent query mode = .ok (play :: older) →
      Given remote mode calls .recent [play]
  | score {scoreId : String} {play : Score} :
      Call.score scoreId mode ∈ calls →
      remote.score scoreId mode = .ok play →
      Given remote mode calls .score [play]

theorem Given.calls_ne_nil {remote : Remote} {calls : List Call}
    (given : Given remote mode calls command plays) : calls ≠ [] := by
  cases given with
  | top made _ | recent made _ | score made _ => exact List.ne_nil_of_mem made

theorem Inquiry.user_of_mem_calls {operation : Operation} {player : Reference}
    {result : Outcome PlayerQuery} (asked : Inquiry context operation before player result after)
    (fresh : before.calls = []) {call : Call} (made : call ∈ after.calls) :
    ∃ query, call = .user query context.mode := by
  cases asked with
  | nameFound _ _ _ _ | nameLost _ _ _ _ | idFound _ _ _ _ | idLost _ _ _ _ =>
    rw [Books.noting_calls, fresh, List.nil_append, List.mem_singleton] at made
    exact ⟨_, made⟩
  | _ =>
    rw [fresh] at made
    cases made

theorem Inquiry.eq_last {operation : Operation} {player : Reference}
    {result : Outcome PlayerQuery} (asked : Inquiry context operation before player result after)
    (fresh : before.calls = []) {call last : Call} (made : call ∈ after.calls ++ [last])
    (about : ∀ query, call ≠ .user query context.mode) : call = last := by
  rcases List.mem_append.1 made with earlier | latest
  · obtain ⟨query, other⟩ := asked.user_of_mem_calls fresh earlier
    exact absurd other (about query)
  · exact List.mem_singleton.1 latest

theorem numbers_empty (context : Context) (text : String) :
    context.Numbers [] [] [] (.ofText text) where
  lines filled := absurd rfl filled
  drawn _ := .nil
  undrawn _ := rfl
  single := rfl

theorem numbers_plays (context : Context) (player : Reference) (plays : List Score) :
    context.Numbers plays [] (playButtons context plays)
      ((Reply.ofText (Report.scores context.catalog
        (context.text "top_header" (playsParameters context player)) plays)).withRow
          (playButtons context plays)) :=
  Context.numbers_page (by simp [playsParameters]) (Context.draws_playButtons · plays)
    (Context.playButtons_of_not_canDraw · plays)

theorem numbers_scoreReply (context : Context) {key : String} {parameters : Parameters}
    (moded : ("mode", context.mode.name) ∈ parameters) (play : Score) :
    context.Numbers [play] (context.leaderboardButton? play.beatmapId).toList
      (context.renderButton? play 1).toList
      (scoreReply context (context.text key parameters) play) := by
  apply Context.numbers_page moded
  · intro drawn
    exact Context.draws_renderButton? drawn play
  · intro undrawn
    rw [Context.renderButton?_of_not_canDraw undrawn]
    rfl

theorem Ending.numbers_top (ending : Ending context before .top outcome after)
    (fresh : before.calls = []) {query : PlayerQuery} {limit : Nat}
    (made : Call.top query mode limit ∈ after.calls)
    (answered : context.remote.top query mode limit = .ok plays) :
    mode = context.mode ∧ ∃ reply row, outcome = .ok reply ∧ context.Numbers plays [] row reply := by
  cases ending with
  | playerless _ _ =>
    rw [fresh] at made
    cases made
  | queryFailed _ asked =>
    obtain ⟨_, other⟩ := asked.user_of_mem_calls fresh made
    cases other
  | topFailed _ asked failed =>
    cases asked.eq_last fresh made (by rintro query ⟨⟩)
    rw [failed] at answered
    cases answered
  | topEmpty _ asked nothing =>
    cases asked.eq_last fresh made (by rintro query ⟨⟩)
    rw [nothing] at answered
    cases answered
    exact ⟨rfl, _, [], rfl, numbers_empty context _⟩
  | @topShown player _ _ _ _ asked shown _ =>
    cases asked.eq_last fresh made (by rintro query ⟨⟩)
    rw [shown] at answered
    cases answered
    exact ⟨rfl, _, _, rfl, numbers_plays context player plays⟩

theorem Ending.numbers_recent (ending : Ending context before .recent outcome after)
    (fresh : before.calls = []) {query : PlayerQuery} {play : Score} {older : List Score}
    (made : Call.recent query mode ∈ after.calls)
    (answered : context.remote.recent query mode = .ok (play :: older)) :
    mode = context.mode ∧ ∃ reply row, outcome = .ok reply ∧
      context.Numbers [play] (context.leaderboardButton? play.beatmapId).toList row reply := by
  cases ending with
  | playerless _ _ =>
    rw [fresh] at made
    cases made
  | queryFailed _ asked =>
    obtain ⟨_, other⟩ := asked.user_of_mem_calls fresh made
    cases other
  | recentFailed _ asked failed =>
    cases asked.eq_last fresh made (by rintro query ⟨⟩)
    rw [failed] at answered
    cases answered
  | recentEmpty _ asked nothing =>
    cases asked.eq_last fresh made (by rintro query ⟨⟩)
    rw [nothing] at answered
    cases answered
  | recentShown _ asked shown =>
    rw [Books.showing_calls] at made
    cases asked.eq_last fresh made (by rintro query ⟨⟩)
    rw [shown] at answered
    cases answered
    exact ⟨rfl, _, _, rfl, numbers_scoreReply context (by simp [playsParameters]) play⟩

theorem Ending.numbers_score (ending : Ending context before .score outcome after)
    (fresh : before.calls = []) {scoreId : String} {play : Score}
    (made : Call.score scoreId mode ∈ after.calls)
    (answered : context.remote.score scoreId mode = .ok play) :
    mode = context.mode ∧ ∃ reply row, outcome = .ok reply ∧
      context.Numbers [play] (context.leaderboardButton? play.beatmapId).toList row reply := by
  cases ending with
  | playerless needed _ => cases needed
  | queryFailed concerns _ => cases concerns
  | scoreUnnamed _ =>
    rw [fresh] at made
    cases made
  | scoreFailed _ failed =>
    rw [Books.noting_calls, fresh, List.nil_append, List.mem_singleton] at made
    cases made
    rw [failed] at answered
    cases answered
  | scoreShown _ shown =>
    rw [Books.showing_calls, Books.noting_calls, fresh, List.nil_append, List.mem_singleton] at made
    cases made
    rw [shown] at answered
    cases answered
    exact ⟨rfl, _, _, rfl, numbers_scoreReply context (by simp) play⟩

/-- A command to which the server gave plays ends with a reply that shows them. -/
theorem Ending.numbers (ending : Ending context before command outcome after)
    (fresh : before.calls = []) (given : Given context.remote mode after.calls command plays) :
    mode = context.mode ∧ ∃ reply row, outcome = .ok reply ∧
      context.Numbers plays (context.boardButtons command plays) row reply := by
  cases given with
  | top made answered => exact ending.numbers_top fresh made answered
  | recent made answered => exact ending.numbers_recent fresh made answered
  | score made answered => exact ending.numbers_score fresh made answered

end Answer

end RhythmBot
