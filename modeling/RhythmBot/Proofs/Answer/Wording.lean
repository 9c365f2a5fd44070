import RhythmBot.Proofs.Answer.Run
/-!
How an answer depends on the texts of the catalog: it reads them into its reply and decides nothing
by them. Main statement: apart from a drawing without a renderer, no answer reads the text that
refuses a request.
-/

namespace RhythmBot

/-- Two catalogs have the same texts under every key but one. -/
def Catalog.AgreeBut (key : String) (first second : Catalog) : Prop :=
  ∀ other, other ≠ key → ∀ parameters, first.text other parameters = second.text other parameters

def Context.worded (context : Context) (catalog : Catalog) : Context :=
  { context with catalog := catalog }

namespace Report

variable {first second : Catalog} (agree : Catalog.AgreeBut "unsupported" first second)
include agree

theorem usage_agree (server : String) (command : Command) :
    usage first server command = usage second server command :=
  agree "usage" (by decide) _

theorem help_agree (name link server : String) (commands : List Command) :
    help first name link server commands = help second name link server commands := by
  have lines : ∀ command, helpLine first server command = helpLine second server command := by
    intro command
    have key : "help_" ++ command.name ≠ "unsupported" := by cases command <;> decide
    unfold helpLine
    rw [agree _ key, agree "help_line" (by decide)]
  unfold help
  rw [agree "help_header" (by decide), funext lines]

theorem profile_agree (record : Record) : profile first record = profile second record := by
  unfold profile rankText
  rw [agree "profile" (by decide), agree "unranked" (by decide)]

theorem scores_agree (header : String) (list : List Score) :
    scores first header list = scores second header list := by
  unfold scores scoreLine
  simp only [agree "score_line" (by decide)]

theorem leaderboard_agree (header : String) (entries : List Entry) :
    leaderboard first header entries = leaderboard second header entries := by
  unfold leaderboard entryLine
  simp only [agree "leaderboard_line" (by decide)]

end Report

namespace Context

variable (context : Context) (catalog : Catalog)

@[simp] theorem worded_server : (context.worded catalog).server = context.server := rfl

@[simp] theorem worded_origin : (context.worded catalog).origin = context.origin := rfl

@[simp] theorem worded_arguments : (context.worded catalog).arguments = context.arguments := rfl

@[simp] theorem worded_catalog : (context.worded catalog).catalog = catalog := rfl

@[simp] theorem worded_renderer : (context.worded catalog).renderer = context.renderer := rfl

@[simp] theorem worded_disk : (context.worded catalog).disk = context.disk := rfl

@[simp] theorem worded_mode : (context.worded catalog).mode = context.mode := rfl

@[simp] theorem worded_address : (context.worded catalog).address = context.address := rfl

@[simp] theorem worded_setLine : (context.worded catalog).setLine = context.setLine := rfl

@[simp] theorem worded_followUp (command : Command) (target : String) :
    (context.worded catalog).followUp command target = context.followUp command target := rfl

variable {context catalog} (agree : Catalog.AgreeBut "unsupported" catalog context.catalog)
include agree

theorem worded_text {key : String} (supported : key ≠ "unsupported") (parameters : Parameters) :
    (context.worded catalog).text key parameters = context.text key parameters :=
  agree key supported parameters

theorem worded_usageReply (command : Command) :
    (context.worded catalog).usageReply command = context.usageReply command := by
  unfold usageReply
  rw [worded_catalog, worded_address, Report.usage_agree agree]

theorem worded_renderButton? (score : Score) (index : Nat) :
    (context.worded catalog).renderButton? score index = context.renderButton? score index := by
  unfold renderButton?
  simp only [worded_renderer, worded_server, worded_followUp,
    worded_text agree (by decide : "button_render" ≠ "unsupported")]

theorem worded_scoreButtons (score : Score) :
    (context.worded catalog).scoreButtons score = context.scoreButtons score := by
  unfold scoreButtons leaderboardButton?
  simp only [worded_renderButton? agree, worded_server, worded_followUp,
    worded_text agree (by decide : "button_lb" ≠ "unsupported")]

end Context

namespace Answer

variable {α β : Type} {context : Context} {catalog : Catalog}

/-- An answer runs alike under the texts of another catalog. -/
def Indifferent (context : Context) (catalog : Catalog) (answer : Answer α) : Prop :=
  ∀ books, answer.run (context.worded catalog) books = answer.run context books

namespace Indifferent

theorem pure (value : α) : Indifferent context catalog (Pure.pure value) := fun _ => rfl

theorem fail (failure : Failure) : Indifferent context catalog (fail failure : Answer α) :=
  fun _ => rfl

theorem get : Indifferent context catalog (MonadState.get : Answer Books) := fun _ => rfl

theorem modify (change : Books → Books) :
    Indifferent context catalog (modify change : Answer PUnit) := fun _ => rfl

theorem bind {answer : Answer α} {next : α → Answer β} (first : Indifferent context catalog answer)
    (later : ∀ value, Indifferent context catalog (next value)) :
    Indifferent context catalog (answer >>= next) := by
  intro books
  rw [run_bind, run_bind, first books]
  rcases answer.run context books with ⟨failure | value, after⟩
  · rfl
  · exact later value after

theorem read {next : Context → Answer α} (same : next (context.worded catalog) = next context)
    (later : Indifferent context catalog (next context)) :
    Indifferent context catalog (MonadReader.read >>= next) := by
  intro books
  simp only [run_bind, run_read]
  rw [same]
  exact later books

theorem ask (call : Call) (outcome : Outcome α) :
    Indifferent context catalog (ask call outcome) := by
  intro books
  rw [run_ask, run_ask]

theorem askUser (query : PlayerQuery) : Indifferent context catalog (askUser query) :=
  .read rfl (.ask _ _)

theorem askTop (query : PlayerQuery) (limit : Nat) :
    Indifferent context catalog (askTop query limit) :=
  .read rfl (.ask _ _)

theorem askRecent (query : PlayerQuery) : Indifferent context catalog (askRecent query) :=
  .read rfl (.ask _ _)

theorem askScore (scoreId : String) : Indifferent context catalog (askScore scoreId) :=
  .read rfl (.ask _ _)

theorem askLeaderboard (beatmapId : String) (players : List String) (mods : Option Mods) :
    Indifferent context catalog (askLeaderboard beatmapId players mods) :=
  .read rfl (.ask _ _)

theorem askImage (renderer : Renderer) (score : Score) :
    Indifferent context catalog (askImage renderer score) :=
  .read rfl (.ask _ _)

theorem reference : Indifferent context catalog reference := by
  refine .read rfl ?_
  cases context.reference with
  | none => exact .fail _
  | some player => exact .pure player

theorem playerQuery (player : Reference) (operation : Operation) :
    Indifferent context catalog (playerQuery player operation) := by
  refine .read rfl ?_
  cases player with
  | linked account =>
    simp only
    split
    · exact .pure _
    · split
      · exact .pure _
      · exact .fail _
  | nickname text | id text =>
    simp only
    split
    · exact .pure _
    · split
      · exact .bind (.askUser _) fun record => .pure _
      · exact .fail _

theorem showBeatmap (beatmapId : String) :
    Indifferent context catalog (showBeatmap beatmapId) := by
  refine .read rfl ?_
  cases context.origin.room with
  | none => exact .pure _
  | some room => exact .modify _

theorem changeAccount (change : Store.Players → Store.Change × Store.Players) :
    Indifferent context catalog (changeAccount change) := by
  intro books
  rw [run_changeAccount, run_changeAccount]

theorem memberPlayers (room : String) : Indifferent context catalog (memberPlayers room) :=
  fun _ => rfl

theorem boardBeatmap (room : String) : Indifferent context catalog (boardBeatmap room) := by
  refine .read rfl ?_
  cases context.arguments.nickname with
  | nil => exact .bind .get fun books => .pure _
  | cons beatmapId more => exact .pure _

theorem beatmapBoard (beatmapId : String) (players : List String) (mods : Option Mods) :
    Indifferent context catalog (beatmapBoard beatmapId players mods) := by
  unfold Answer.beatmapBoard
  split
  · exact .pure _
  · exact .bind (.askLeaderboard _ _ _) fun entries => .pure _

theorem typedScore : Indifferent context catalog typedScore := by
  refine .read rfl ?_
  cases context.arguments.nickname with
  | nil => exact .pure _
  | cons scoreId more =>
    exact .bind (.askScore scoreId) fun score => .bind (.showBeatmap _) fun _ => .pure _

end Indifferent

variable (agree : Catalog.AgreeBut "unsupported" catalog context.catalog)
include agree

theorem profileButtons_worded (record : Record) :
    profileButtons (context.worded catalog) record = profileButtons context record := by
  unfold profileButtons
  simp only [Context.worded_server, Context.worded_followUp,
    Context.worded_text agree (by decide : "button_top" ≠ "unsupported"),
    Context.worded_text agree (by decide : "button_recent" ≠ "unsupported")]

theorem playButtons_worded (scores : List Score) :
    playButtons (context.worded catalog) scores = playButtons context scores := by
  unfold playButtons
  simp only [Context.worded_renderButton? agree]

theorem scoreReply_worded (header : String) (score : Score) :
    scoreReply (context.worded catalog) header score = scoreReply context header score := by
  unfold scoreReply
  rw [Context.worded_catalog, Report.scores_agree agree, Context.worded_scoreButtons agree]

theorem chatRoom_worded : chatRoom (context.worded catalog) = chatRoom context := by
  unfold chatRoom
  simp only [Context.worded_arguments, Context.worded_origin,
    Context.worded_text agree (by decide : "chat_invalid" ≠ "unsupported"),
    Context.worded_text agree (by decide : "chat_no_room" ≠ "unsupported")]

theorem help_indifferent : Indifferent context catalog help := by
  refine .read ?_ (.pure _)
  simp only [Context.worded_catalog, Report.help_agree agree, Context.worded_server,
    Context.worded_address]

theorem user_indifferent : Indifferent context catalog user := by
  refine .read ?_ ?_
  · simp only [Context.worded_catalog, Report.profile_agree agree, profileButtons_worded agree]
  · exact .bind .reference fun player => .bind (.playerQuery player .lookup) fun query =>
      .bind (.askUser query) fun record => .bind (.modify _) fun _ => .pure _

theorem top_indifferent : Indifferent context catalog top := by
  have parameters : ∀ player, playsParameters (context.worded catalog) player =
      playsParameters context player := fun player => rfl
  refine .read ?_ ?_
  · simp only [Context.worded_catalog, parameters, Report.scores_agree agree,
      playButtons_worded agree,
      Context.worded_text agree (by decide : "top_empty" ≠ "unsupported"),
      Context.worded_text agree (by decide : "top_header" ≠ "unsupported")]
  · refine .bind .reference fun player => .bind (.playerQuery player .top) fun query =>
      .bind (.askTop query topLimit) fun scores => ?_
    split
    · exact .pure _
    · exact .pure _

theorem recent_indifferent : Indifferent context catalog recent := by
  have parameters : ∀ player, playsParameters (context.worded catalog) player =
      playsParameters context player := fun player => rfl
  refine .read ?_ ?_
  · simp only [parameters, scoreReply_worded agree,
      Context.worded_text agree (by decide : "recent_empty" ≠ "unsupported"),
      Context.worded_text agree (by decide : "recent_header" ≠ "unsupported")]
  · refine .bind .reference fun player => .bind (.playerQuery player .recent) fun query =>
      .bind (.askRecent query) fun scores => ?_
    cases scores with
    | nil => exact .pure _
    | cons score older => exact .bind (.showBeatmap _) fun _ => .pure _

theorem set_indifferent : Indifferent context catalog set := by
  have linked : linkedMode (context.worded catalog) = linkedMode context := rfl
  refine .read ?_ ?_
  · simp only [Context.worded_server, Context.worded_arguments, Context.worded_usageReply agree,
      Context.worded_origin, Context.worded_disk, linked,
      Context.worded_text agree (by decide : "set_taken" ≠ "unsupported"),
      Context.worded_text agree (by decide : "set_done" ≠ "unsupported")]
  · cases Identity.explicit? context.server.capabilities context.arguments with
    | none => exact .pure _
    | some typed =>
      cases typed with
      | error failure => exact .fail _
      | ok player =>
        refine .bind (.playerQuery player .lookup) fun query => .bind (.askUser query) fun record =>
          .bind .get fun books => ?_
        split
        · exact .pure _
        · exact .bind (.changeAccount _) fun _ => .bind (.modify _) fun _ => .pure _

theorem unset_indifferent : Indifferent context catalog unset := by
  have wording : ∀ removed : Bool,
      (context.worded catalog).text (if removed then "unset_done" else "unset_missing") [] =
        context.text (if removed then "unset_done" else "unset_missing") [] := by
    intro removed
    cases removed with
    | true => exact Context.worded_text agree (by decide) []
    | false => exact Context.worded_text agree (by decide) []
  refine .read ?_ (.bind (.changeAccount _) fun removed => .pure _)
  simp only [Context.worded_disk, Context.worded_origin, wording]

theorem mode_indifferent : Indifferent context catalog mode := by
  refine .read ?_ ?_
  · simp only [Context.worded_arguments, Context.worded_disk, Context.worded_origin,
      Context.worded_setLine,
      Context.worded_text agree (by decide : "mode_done" ≠ "unsupported"),
      Context.worded_text agree (by decide : "no_linked_account" ≠ "unsupported"),
      Context.worded_text agree (by decide : "mode_invalid" ≠ "unsupported")]
  · split
    · refine .bind (.changeAccount _) fun changed => ?_
      split
      · exact .pure _
      · exact .pure _
    · exact .pure _

theorem chat_indifferent : Indifferent context catalog chat := by
  refine .read ?_ ?_
  · simp only [chatRoom_worded agree, Context.worded_mode, Context.worded_catalog,
      Report.leaderboard_agree agree,
      Context.worded_text agree (by decide : "chat_empty" ≠ "unsupported"),
      Context.worded_text agree (by decide : "chat_header" ≠ "unsupported")]
  · cases chatRoom context with
    | error reply => exact .pure _
    | ok room =>
      refine .bind (.memberPlayers room) fun players => .bind .get fun books => ?_
      simp only
      split
      · exact .pure _
      · exact .pure _

theorem leaderboard_indifferent : Indifferent context catalog leaderboard := by
  refine .read ?_ ?_
  · simp only [Context.worded_origin, Context.worded_arguments, Context.worded_mode,
      Context.worded_catalog, Report.leaderboard_agree agree,
      Context.worded_text agree (by decide : "chat_no_room" ≠ "unsupported"),
      Context.worded_text agree (by decide : "lb_no_map" ≠ "unsupported"),
      Context.worded_text agree (by decide : "lb_empty" ≠ "unsupported"),
      Context.worded_text agree (by decide : "lb_header" ≠ "unsupported")]
  · cases context.origin.room with
    | none => exact .pure _
    | some room =>
      refine .bind (.boardBeatmap room) fun beatmap => ?_
      cases beatmap with
      | none => exact .pure _
      | some beatmapId =>
        refine .bind (.memberPlayers room) fun players => .bind (.beatmapBoard _ _ _) fun entries => ?_
        split
        · exact .pure _
        · exact .pure _

theorem score_indifferent : Indifferent context catalog score := by
  refine .read ?_ ?_
  · simp only [Context.worded_usageReply agree, scoreReply_worded agree, Context.worded_mode,
      Context.worded_text agree (by decide : "score_header" ≠ "unsupported")]
  · refine .bind .typedScore fun found => ?_
    cases found with
    | none => exact .pure _
    | some score => exact .pure _

/-- A drawing reads the text that refuses a request only where there is no renderer. -/
theorem render_indifferent (drawn : context.renderer.isSome = true) :
    Indifferent context catalog render := by
  obtain ⟨renderer, there⟩ := Option.isSome_iff_exists.1 drawn
  refine .read ?_ ?_
  · simp only [Context.worded_renderer, there, Context.worded_usageReply agree,
      Context.worded_text agree (by decide : "render_done" ≠ "unsupported")]
  · rw [there]
    refine .bind .typedScore fun found => ?_
    cases found with
    | none => exact .pure _
    | some score => exact .bind (.askImage renderer score) fun image => .pure _

/-- No command that its server offers reads the text that refuses a request. -/
theorem ofCommand_indifferent {command : Command}
    (drawn : command = .render → context.renderer.isSome = true) :
    Indifferent context catalog (ofCommand command) := by
  cases command with
  | help => exact help_indifferent agree
  | user => exact user_indifferent agree
  | top => exact top_indifferent agree
  | recent => exact recent_indifferent agree
  | set => exact set_indifferent agree
  | unset => exact unset_indifferent agree
  | mode => exact mode_indifferent agree
  | chat => exact chat_indifferent agree
  | leaderboard => exact leaderboard_indifferent agree
  | score => exact score_indifferent agree
  | render => exact render_indifferent agree (drawn rfl)

end Answer

end RhythmBot
