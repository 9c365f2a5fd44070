import RhythmBot.Proofs.Answer.Written
import RhythmBot.Proofs.Session.FollowUps
/-!
Whom the buttons below a profile are about. The player travels through the command line of a button as
words. Main statement: a button that is pressed names the player by these words with single spaces
between them, which is the player of the profile if the nickname or id is written so; without any word
it is about the one who presses it.
-/

namespace RhythmBot

/-- The player that a server finds by what is typed. -/
def Server.named (server : Server) (text : String) : Reference :=
  if server.capabilities.lookupByName then .nickname text else .id text

theorem Server.named_injective {server : Server} {first second : String}
    (same : server.named first = server.named second) : first = second := by
  unfold named at same
  split at same <;> cases same <;> rfl

/-- A text that is its words, at least one, with single spaces between them. -/
def Text.SingleSpaced (text : String) : Prop :=
  words text ≠ [] ∧ " ".intercalate (words text) = text

namespace Identity

variable {server : Server} {players : Store.Players} {origin : Origin} {mode : Option Mode}

/-- Arguments with words that are no modifiers name the player of these words joined. -/
theorem explicit?_words {arguments : Arguments} (spoken : arguments.nickname ≠ [])
    (isWord : ∀ token ∈ arguments.nickname, Text.IsWord token) :
    explicit? server.capabilities arguments =
      some (.ok (server.named (" ".intercalate arguments.nickname))) := by
  have visible : Text.isBlankText (" ".intercalate arguments.nickname) = false := by
    cases blank : Text.isBlankText (" ".intercalate arguments.nickname) with
    | false => rfl
    | true =>
      have nothing := Text.words_eq_nil_of_isBlankText blank
      rw [Text.words_joined isWord] at nothing
      exact absurd nothing spoken
  have joined : arguments.joined? = some (" ".intercalate arguments.nickname) := by
    unfold Arguments.joined?
    simp only [List.isEmpty_iff, spoken, if_false]
  unfold explicit? Server.named
  rw [joined, Option.map_some]
  by_cases byName : server.capabilities.lookupByName = true
  · simp only [byName, if_true]
  · simp only [byName, if_false, visible, Bool.false_eq_true]

theorem resolve_words {tokens : List String} (spoken : tokens ≠ [])
    (isWord : ∀ token ∈ tokens, Text.IsWord token) :
    resolve server.capabilities players origin ⟨mode, [], tokens, tokens⟩ =
      .ok (server.named (" ".intercalate tokens)) := by
  unfold resolve
  rw [explicit?_words spoken isWord]

/-- The sender that a command is about where no player is typed. -/
def addressed (players : Store.Players) (origin : Origin) : Except ResolutionFailure Reference :=
  match origin.replyTo with
  | some sender => linked players sender .noIdentity
  | none => linked players origin.sender .noLinkedAccount

theorem resolve_untyped (capabilities : Capabilities) :
    resolve capabilities players origin ⟨mode, [], [], []⟩ = addressed players origin := rfl

end Identity

/-- The buttons below a profile are about the player who was looked up last. -/
theorem Answer.Ending.profile {context : Context} {before after : Books} {reply : Reply}
    {record : Record} {row : List Button} {button : Button}
    (ending : Ending context before .user (.ok reply) after)
    (fetched : fetched? context.remote after.calls = some record)
    (listed : row ∈ reply.buttons) (pressed : button ∈ row) :
    ∃ command, (command = .top ∨ command = .recent) ∧
      context.Offers after.calls button command (context.server.target record) := by
  cases ending with
  | @userShown _ query middle shown _ _ answered =>
    rw [Books.keeping_calls, fetched?_noting answered] at fetched
    cases fetched
    rw [Reply.mem_buttons_withRow listed] at pressed
    have asked : Call.user query context.mode ∈ middle.calls ++ [.user query context.mode] := by
      simp
    exact offers_of_mem_profileButtons asked answered pressed

namespace Session

variable {session : Session} {world : World} {state : State} {message : Message}
  {invocation : Invocation} {button : Button} {record : Record}

def about? (session : Session) (state : State) (message : Message) :
    Option (Except ResolutionFailure (Option Reference)) :=
  match session.route message.body with
  | .invocation invocation =>
    some (player invocation (state.players invocation.position) message.origin
      (Arguments.parse invocation.command.takesMods invocation.tokens))
  | _ => none

theorem about?_of_route {body : String} (routed : session.route body = .invocation invocation)
    (state : State) (origin : Origin) :
    session.about? state ⟨body, origin⟩ =
      some (player invocation (state.players invocation.position) origin
        (.parse invocation.command.takesMods invocation.tokens)) := by
  unfold about?
  simp only [routed]

theorem about?_resolve {body : String} (routed : session.route body = .invocation invocation)
    (needed : invocation.command.needsPlayer = true) (state : State) (origin : Origin) :
    session.about? state ⟨body, origin⟩ =
      some ((Identity.resolve invocation.server.capabilities (state.players invocation.position)
        origin (.ofTokens invocation.tokens)).map some) := by
  -- No command that needs a player takes modifiers.
  have unmodified : invocation.command.takesMods = false := by
    revert needed
    cases invocation.command <;> decide
  rw [about?_of_route routed, player, if_pos needed, unmodified]
  rfl

/-- What a button with the target of a player does, whoever presses it and whatever is known then. -/
structure Pressed (session : Session) (position : Nat) (server : Server) (target : String)
    (button : Button) : Prop where
  /-- It asks the same server for the best or recent plays. -/
  leads : ∃ command tokens, (command = .top ∨ command = .recent) ∧
    session.route button.command = .invocation ⟨position, server, command, tokens⟩
  /-- The words of the target name the player. -/
  named : Text.words target ≠ [] → ∀ state origin,
    session.about? state ⟨button.command, origin⟩ =
      some (.ok (some (server.named (" ".intercalate (Text.words target)))))
  /-- Without a word, it is about the sender replied to or the one who presses it. -/
  unnamed : Text.words target = [] → ∀ state origin,
    session.about? state ⟨button.command, origin⟩ =
      some ((Identity.addressed (state.players position) origin).map some)
  /-- It names exactly the target only if that is written as its words. -/
  same : (∀ state origin,
      session.about? state ⟨button.command, origin⟩ = some (.ok (some (server.named target)))) ↔
    Text.SingleSpaced target

/-- A button that leads to the best or recent plays, with a mode and the words of a target. -/
theorem pressed_of_route {position : Nat} {server : Server} {command : Command} {mode : Mode}
    {target : String} (kind : command = .top ∨ command = .recent)
    (leads : session.route button.command =
      .invocation ⟨position, server, command, mode.name :: Text.words target⟩) :
    session.Pressed position server target button := by
  have about : ∀ state origin, session.about? state ⟨button.command, origin⟩ =
      some ((Identity.resolve server.capabilities (state.players position) origin
        ⟨some mode, [], Text.words target, Text.words target⟩).map some) := by
    intro state origin
    have needed : command.needsPlayer = true := by rcases kind with rfl | rfl <;> rfl
    rw [about?_resolve leads needed, Arguments.ofTokens_modeName]
  have named : Text.words target ≠ [] → ∀ state origin,
      session.about? state ⟨button.command, origin⟩ =
        some (.ok (some (server.named (" ".intercalate (Text.words target))))) := by
    intro spoken state origin
    rw [about, Identity.resolve_words spoken fun token => Text.isWord_of_mem_words]
    rfl
  have unnamed : Text.words target = [] → ∀ state origin,
      session.about? state ⟨button.command, origin⟩ =
        some ((Identity.addressed (state.players position) origin).map some) := by
    intro silent state origin
    rw [about, silent, Identity.resolve_untyped]
  refine ⟨⟨command, _, kind, leads⟩, named, unnamed, ?_⟩
  constructor
  · intro exactly
    by_cases spoken : Text.words target = []
    -- Somebody without account who presses the button finds nobody.
    · have nobody := unnamed spoken ⟨fun _ => .inMemory, .inMemory⟩ ⟨none, "", none⟩
      rw [exactly] at nobody
      cases nobody
    · have found := named spoken ⟨fun _ => .inMemory, .inMemory⟩ ⟨none, "", none⟩
      rw [exactly] at found
      have joined := Server.named_injective (Option.some.inj (Except.ok.inj (Option.some.inj found)))
      exact ⟨spoken, joined.symm⟩
  · rintro ⟨spoken, joined⟩ state origin
    rw [named spoken, joined]

theorem Handled.profile {turn : Turn} (turned : Handled session world state message turn)
    (routed : session.route message.body = .invocation invocation)
    (asked : invocation.command = .user)
    (fetched : Answer.fetched? (world.remote invocation.position) turn.calls = some record)
    {reply : Reply} (answered : turn.reply = some reply) {row : List Button}
    (listed : row ∈ reply.buttons) (pressed : button ∈ row) :
    ∃ context command, session.contextFor world state message.origin invocation = .ok context ∧
      (command = .top ∨ command = .recent) ∧
      context.Offers turn.calls button command (invocation.server.target record) := by
  cases turned with
  | ignored ignored =>
    rw [routed] at ignored
    cases ignored
  | unknown unknown =>
    rw [routed] at unknown
    cases unknown
  | unresolved _ _ =>
    cases answered
    cases listed
  | @answered found context outcome after alsoRouted prepared ending =>
    rw [routed] at alsoRouted
    cases alsoRouted
    cases answered
    obtain ⟨position, server, command, tokens⟩ := invocation
    cases asked
    cases outcome with
    | error failure => cases listed
    | ok reply =>
      obtain ⟨_, _, rfl⟩ := contextFor_eq_ok prepared
      obtain ⟨command, kind, offers⟩ := ending.profile fetched listed pressed
      exact ⟨_, command, prepared, kind, offers⟩

/-- A button below a profile is about the player of the profile as far as the words of the nickname, or
of the id, tell, in a session that is built by adding servers with a word as their first alias. -/
theorem handle_pressed (built : session.Built)
    (routed : session.route message.body = .invocation invocation)
    (asked : invocation.command = .user)
    (word : Text.IsWord invocation.server.primaryAlias)
    (fetched : Answer.fetched? (world.remote invocation.position)
      (session.handle world state message).calls = some record)
    {reply : Reply} (answered : (session.handle world state message).reply = some reply)
    {row : List Button} (listed : row ∈ reply.buttons) (pressed : button ∈ row) :
    session.Pressed invocation.position invocation.server (invocation.server.target record)
      button := by
  obtain ⟨context, command, prepared, kind, offers⟩ :=
    (session.handled world state message).profile routed asked fetched answered listed pressed
  have drawing : command = .render → invocation.server.renders = world.renderer.isSome := by
    intro render
    subst render
    rcases kind with other | other <;> cases other
  exact pressed_of_route kind (built.route_button routed word prepared offers drawing)

/-- Pressed by somebody else, the button below the profile of Seven is about Seven. -/
theorem handle_pressed_seven :
    let server : Server := .sample ["lookup_by_name", "top_by_name"] false rfl
    let session := single server
    let start : State := ⟨fun _ => .inMemory, .inMemory⟩
    ∃ reply button,
      (session.handle (.lonely "7" "Seven") start
        ⟨"!ex user Seven", ⟨none, "ann", none⟩⟩).reply = some reply ∧
      reply.button? 0 0 = some button ∧ session.Pressed 0 server "Seven" button ∧
      session.about? start ⟨button.command, ⟨none, "bob", none⟩⟩ =
        some (.ok (some (.nickname "Seven"))) := by
  intro server session start
  have added : (empty '!' .default).addServer server = .ok session := rfl
  have built : Session.Built session := .added (.empty '!' .default) added
  obtain ⟨tokens, routed⟩ : ∃ tokens,
      session.route (Message.mk "!ex user Seven" ⟨none, "ann", none⟩).body =
        .invocation ⟨0, server, .user, tokens⟩ := ⟨_, rfl⟩
  have word : Text.IsWord server.primaryAlias := by decide
  have fetched : Answer.fetched? ((World.lonely "7" "Seven").remote 0)
      (session.handle (.lonely "7" "Seven") ⟨fun _ => .inMemory, .inMemory⟩
        ⟨"!ex user Seven", ⟨none, "ann", none⟩⟩).calls =
      some ⟨"7", "Seven", .standard, 0, 0, 0, 0, none⟩ := rfl
  have pressed := handle_pressed built routed rfl word fetched rfl List.mem_cons_self
    List.mem_cons_self
  have below : session.Pressed 0 server "Seven" _ := pressed
  exact ⟨_, _, rfl, rfl, below, below.same.2 ⟨by decide, by decide⟩ start ⟨none, "bob", none⟩⟩

/-- The button below the profile of a nickname with two spaces in a row asks for another nickname, and
the one below a nickname without anything visible is about the one who presses it. -/
theorem handle_pressed_spaced :
    let server : Server := .sample ["lookup_by_name", "top_by_name"] false rfl
    let session := single server
    let start : State :=
      ⟨fun _ => (Store.Players.inMemory.setAccount .succeeds "bob" ⟨"8", "Eight", none⟩).2,
        .inMemory⟩
    let line (nickname : String) : Option String :=
      ((session.handle (.lonely "7" nickname) start ⟨"!ex user x", ⟨none, "ann", none⟩⟩).reply.bind
        (·.button? 0 0)).map Button.command
    let about (line : String) := session.about? start ⟨line, ⟨none, "bob", none⟩⟩
    (line "Cool  Player").bind about = some (.ok (some (.nickname "Cool Player"))) ∧
      (line " ").bind about = some (.ok (some (.linked ⟨"8", "Eight", none⟩))) := by
  exact ⟨rfl, rfl⟩

end Session

end RhythmBot
