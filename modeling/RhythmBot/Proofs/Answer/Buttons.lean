import RhythmBot.Proofs.Answer.Ending
/-!
The buttons of answers: each is for a command that the server offers, about a player or a play that
the server has just answered with. Main statement: no command ends with any other button.
-/

namespace RhythmBot

namespace Context

/-- A play that a command shows: one of the best of a player, the most recent one, or the one of an
id, as the server answered. -/
inductive Shows (context : Context) (calls : List Call) : Score → Prop
  | top {query : PlayerQuery} {scores : List Score} {score : Score} :
      Call.top query context.mode Answer.topLimit ∈ calls →
      context.remote.top query context.mode Answer.topLimit = .ok scores →
      score ∈ scores → Shows context calls score
  | recent {query : PlayerQuery} {score : Score} {older : List Score} :
      Call.recent query context.mode ∈ calls →
      context.remote.recent query context.mode = .ok (score :: older) →
      Shows context calls score
  | score {scoreId : String} {score : Score} :
      Call.score scoreId context.mode ∈ calls →
      context.remote.score scoreId context.mode = .ok score →
      Shows context calls score

/-- A button of a command, the command that it names and the target of that: the best or recent plays
of a player who was looked up, the leaderboard of the beatmap of a play or the drawing of a play. -/
inductive Offers (context : Context) (calls : List Call) : Button → Command → String → Prop
  | top {query : PlayerQuery} {record : Record} :
      Call.user query context.mode ∈ calls →
      context.remote.user query context.mode = .ok record →
      context.server.capabilities.supports .top = true →
      Offers context calls
        ⟨context.text "button_top" [], context.followUp .top (context.server.target record)⟩ .top
        (context.server.target record)
  | recent {query : PlayerQuery} {record : Record} :
      Call.user query context.mode ∈ calls →
      context.remote.user query context.mode = .ok record →
      context.server.capabilities.supports .recent = true →
      Offers context calls
        ⟨context.text "button_recent" [], context.followUp .recent (context.server.target record)⟩
        .recent (context.server.target record)
  | leaderboard {score : Score} :
      context.Shows calls score →
      context.server.capabilities.leaderboard = true →
      Offers context calls
        ⟨context.text "button_lb" [], context.followUp .leaderboard score.beatmapId⟩ .leaderboard
        score.beatmapId
  | render {score : Score} {scoreId : String} (index : Nat) :
      context.Shows calls score →
      score.scoreId = some scoreId →
      context.server.capabilities.scoreById = true →
      context.renderer.isSome = true →
      Offers context calls
        ⟨context.text "button_render" [("index", toString index)],
          context.followUp .render scoreId⟩ .render scoreId

variable {context : Context} {calls : List Call} {button : Button} {command : Command}
  {target : String} {score : Score}

theorem Offers.command_eq (offers : context.Offers calls button command target) :
    button.command = context.followUp command target := by
  cases offers <;> rfl

theorem Offers.isOffered (offers : context.Offers calls button command target)
    (renders : command = .render → context.server.renders = context.renderer.isSome) :
    command ∈ context.server.commands := by
  apply List.mem_filter.2
  refine ⟨Command.mem_all command, ?_⟩
  cases offers with
  | top _ _ supported => exact supported
  | recent _ _ supported => exact supported
  | leaderboard _ supported => exact supported
  | render _ _ _ supported drawn =>
    rw [← renders rfl] at drawn
    exact Bool.and_eq_true_iff.2 ⟨supported, drawn⟩

theorem offers_of_mem_leaderboardButton? (shown : context.Shows calls score)
    (listed : button ∈ context.leaderboardButton? score.beatmapId) :
    context.Offers calls button .leaderboard score.beatmapId := by
  unfold leaderboardButton? at listed
  split at listed
  · rename_i supported
    cases listed
    exact .leaderboard shown supported
  · cases listed

theorem offers_of_mem_renderButton? (shown : context.Shows calls score) {index : Nat}
    (listed : button ∈ context.renderButton? score index) :
    ∃ scoreId, context.Offers calls button .render scoreId := by
  unfold renderButton? at listed
  split at listed
  · rename_i supported
    have drawn := Bool.and_eq_true_iff.1 supported
    obtain ⟨scoreId, identified, rfl⟩ := Option.map_eq_some_iff.1 listed
    exact ⟨scoreId, .render index shown identified drawn.2 drawn.1⟩
  · cases listed

theorem offers_of_mem_scoreButtons (shown : context.Shows calls score)
    (listed : button ∈ context.scoreButtons score) :
    ∃ command target, context.Offers calls button command target := by
  rcases List.mem_append.1 listed with board | drawing
  · exact ⟨_, _, offers_of_mem_leaderboardButton? shown (Option.mem_toList.1 board)⟩
  · obtain ⟨scoreId, offers⟩ := offers_of_mem_renderButton? shown (Option.mem_toList.1 drawing)
    exact ⟨_, _, offers⟩

end Context

theorem Reply.mem_buttons_withRow {text : String} {row buttons : List Button}
    (listed : row ∈ ((Reply.ofText text).withRow buttons).buttons) : row = buttons := by
  unfold withRow at listed
  split at listed
  · cases listed
  · exact List.mem_singleton.1 listed

namespace Answer

variable {context : Context} {before after : Books} {command : Command} {reply : Reply}
  {button : Button} {row : List Button}

theorem offers_of_mem_profileButtons {calls : List Call} {query : PlayerQuery} {record : Record}
    (made : Call.user query context.mode ∈ calls)
    (answered : context.remote.user query context.mode = .ok record)
    (listed : button ∈ profileButtons context record) :
    ∃ command, (command = .top ∨ command = .recent) ∧
      context.Offers calls button command (context.server.target record) := by
  unfold profileButtons at listed
  simp only at listed
  rcases List.mem_append.1 listed with top | recent
  · split at top
    · rename_i supported
      rw [List.mem_singleton.1 top]
      exact ⟨.top, .inl rfl, .top made answered supported⟩
    · cases top
  · split at recent
    · rename_i supported
      rw [List.mem_singleton.1 recent]
      exact ⟨.recent, .inr rfl, .recent made answered supported⟩
    · cases recent

theorem offers_of_mem_playButtons {calls : List Call} {scores : List Score}
    (shown : ∀ score ∈ scores, context.Shows calls score)
    (listed : button ∈ playButtons context scores) :
    ∃ command target, context.Offers calls button command target := by
  obtain ⟨found, member, named⟩ := List.mem_filterMap.1 listed
  obtain ⟨index, bound, rfl⟩ := List.mem_mapIdx.1 member
  obtain ⟨scoreId, offers⟩ :=
    Context.offers_of_mem_renderButton? (shown _ (List.getElem_mem bound)) named
  exact ⟨_, _, offers⟩

theorem buttons_of_chatRoom (refused : chatRoom context = .error reply) : reply.buttons = [] := by
  unfold chatRoom at refused
  split at refused
  · split at refused
    · cases refused
    · cases refused
      rfl
  · cases refused
  · cases refused
    rfl

theorem Ending.offers (ending : Ending context before command (.ok reply) after)
    (listed : row ∈ reply.buttons) (pressed : button ∈ row) :
    ∃ command target, context.Offers after.calls button command target := by
  cases ending with
  | @userShown _ query middle _ _ _ answered =>
    rw [Reply.mem_buttons_withRow listed] at pressed
    have asked : Call.user query context.mode ∈ middle.calls ++ [.user query context.mode] := by
      simp
    obtain ⟨command, _, offers⟩ := offers_of_mem_profileButtons asked answered pressed
    exact ⟨command, _, offers⟩
  | topShown _ _ answered _ =>
    rw [Reply.mem_buttons_withRow listed] at pressed
    exact offers_of_mem_playButtons (fun score member => .top (by simp) answered member) pressed
  | recentShown _ _ answered =>
    rw [Reply.mem_buttons_withRow listed] at pressed
    exact Context.offers_of_mem_scoreButtons (.recent (by simp) answered) pressed
  | scoreShown _ answered =>
    rw [Reply.mem_buttons_withRow listed] at pressed
    exact Context.offers_of_mem_scoreButtons (.score (by simp) answered) pressed
  | chatRefused refused =>
    rw [buttons_of_chatRoom refused] at listed
    cases listed
  | _ => cases listed

end Answer

end RhythmBot
