import RhythmBot.Bot
import RhythmBot.Proofs.Session.Routing
/-!
Which aliases of a bot can be used. Setting up compares aliases as they are written; a message is
read word by word. Main statement: of the aliases that a bot starts with, those can be used that are
words, blanks at the end apart, and that only if the mark is no blank.
-/

namespace RhythmBot

theorem bind_eq_ok {ε α β : Type} {first : Except ε α} {next : α → Except ε β} {result : β}
    (done : first >>= next = .ok result) : ∃ middle, first = .ok middle ∧ next middle = .ok result := by
  cases first with
  | error failure => cases done
  | ok middle => exact ⟨middle, rfl, done⟩

theorem mapError_eq_ok {ε δ α : Type} {first : Except ε α} {change : ε → δ} {result : α}
    (done : first.mapError change = .ok result) : first = .ok result := by
  cases first with
  | error failure => cases done
  | ok value =>
    cases done
    rfl

def Server.info (server : Server) : ServerInfo :=
  ⟨server.name, server.aliases, server.link, server.capabilities⟩

theorem Server.info_of_build {info : ServerInfo} {renders : Bool} {server : Server}
    (built : Server.build info renders = .ok server) : server.info = info := by
  obtain ⟨name, aliases, link, capabilities⟩ := info
  unfold build at built
  split at built
  · cases built
  · cases aliases with
    | nil => cases built
    | cons primary others =>
      cases built
      rfl

namespace Session

variable {session next : Session} {position : Nat} {server : Server} {name : String}

/-- A server answers to an alias: alone behind the mark it leads to the help of the server, and with
an alias of a command behind it to that command. -/
structure Usable (session : Session) (position : Nat) (server : Server) (name : String) : Prop where
  help : session.route (String.ofList [session.mark] ++ name) =
    .invocation ⟨position, server, .help, []⟩
  commands : ∀ command ∈ server.commands, ∀ spoken ∈ command.aliases,
    session.route (String.ofList [session.mark] ++ (name ++ " " ++ spoken)) =
      .invocation ⟨position, server, command, []⟩

theorem usable_of_isWord (built : session.Built) (solid : Text.isBlank session.mark = false)
    (there : session.servers.values[position]? = some server)
    (word : Text.IsWord (Text.trimEnd name)) (listed : Text.trimEnd name ∈ server.aliases) :
    session.Usable position server name := by
  obtain ⟨single, starts⟩ := Text.trimEnd_eq_word.1 ⟨rfl, word⟩
  refine ⟨?_, ?_⟩
  · have addressed := CommandLine.addressed_marked solid starts
    rw [single] at addressed
    have names : session.Names _ (Text.trimEnd name) [] position server :=
      ⟨addressed, there, listed⟩
    exact names.route_alone built
  · intro command offered spoken called
    have startsLine : Text.startsSolid (name ++ " " ++ spoken) = true := by
      rw [String.append_assoc]
      exact Text.startsSolid_append starts _
    have addressed := CommandLine.addressed_marked solid startsLine
    rw [Text.words_append_space, single,
      Text.words_of_isWord (Command.isWord_of_mem_aliases called)] at addressed
    have names : session.Names _ (Text.trimEnd name) [spoken] position server :=
      ⟨addressed, there, listed⟩
    exact names.route_known built offered called

/-- The words of an alias that can be used, from the line that asks its server to link an account:
there is just one, and it leads to the server as well. -/
theorem Usable.words (usable : session.Usable position server name) :
    Text.isBlank session.mark = false ∧ Text.startsSolid name = true ∧
      ∃ word, Text.words name = [word] ∧ session.server? word = some (position, server) := by
  have offered : Command.set ∈ server.commands := List.mem_filter.2 ⟨Command.mem_all .set, rfl⟩
  have routed := usable.commands .set offered Command.set.name (Command.name_mem_aliases .set)
  have way := session.routed (String.ofList [session.mark] ++ (name ++ " " ++ Command.set.name))
  rw [routed] at way
  generalize nothing : ([] : List String) = arguments at way
  cases way with
  | @known line _ _ _ read found named =>
    have solid := (CommandLine.read?_eq_some read).1
    obtain ⟨starts, spelled⟩ := CommandLine.read?_marked read
    rw [Text.words_append_space, Text.words_of_isWord (Command.isWord_name .set)] at spelled
    cases several : Text.words name with
    | nil =>
      -- Without a word of its own, the alias would leave the command to stand for the server.
      rw [several] at spelled
      cases spelled
      have help : server.command? Command.help.name = some .help :=
        Command.ofAlias?_name (help_offered server)
      rw [Option.getD_none, help] at named
      cases named
    | cons word more =>
      rw [several] at spelled
      cases more with
      | cons spoken later =>
        cases spelled
        cases later <;> cases nothing
      | nil =>
        cases spelled
        have nonempty : name ≠ "" := by
          rintro rfl
          cases several
        rw [String.append_assoc] at starts
        exact ⟨solid, Text.startsSolid_of_append nonempty starts, word, rfl, found⟩

/-- A server of a session answers to a text exactly if the mark is no blank and the text, blanks at
its end apart, is a word and an alias of the server. -/
theorem usable_iff (built : session.Built)
    (there : session.servers.values[position]? = some server) :
    session.Usable position server name ↔
      Text.isBlank session.mark = false ∧ Text.IsWord (Text.trimEnd name) ∧
        Text.trimEnd name ∈ server.aliases := by
  constructor
  · intro usable
    obtain ⟨solid, starts, word, single, found⟩ := usable.words
    obtain ⟨trimmed, isWord⟩ := Text.trimEnd_eq_word.2 ⟨single, starts⟩
    rw [trimmed]
    exact ⟨solid, isWord, (built.server?_eq_some.1 found).2⟩
  · rintro ⟨solid, word, listed⟩
    exact usable_of_isWord built solid there word listed

theorem mark_of_addServer (extended : session.addServer server = .ok next) :
    next.mark = session.mark := by
  obtain ⟨servers, _, rfl⟩ := addServer_eq_ok extended
  rfl

theorem build_eq_ok {renders : Bool} {info : ServerInfo}
    (extended : session.build renders info = .ok next) :
    ∃ server : Server, server.info = info ∧ session.addServer server = .ok next := by
  obtain ⟨server, built, extended⟩ := bind_eq_ok extended
  exact ⟨server, Server.info_of_build built, mapError_eq_ok extended⟩

end Session

namespace Bot

open Text (isBlank trimEnd IsWord)

structure Serves (mark : Char) (configs : List ServerConfig) (session : Session) : Prop where
  built : session.Built
  mark : session.mark = mark
  infos : session.servers.values.map Server.info = configs.map ServerConfig.info

variable {mark : Char} {configs more : List ServerConfig} {renders : Bool}
  {session next : Session}

theorem Serves.add (serves : Serves mark configs session) {config : ServerConfig}
    (extended : addServer renders session config = .ok next) :
    Serves mark (configs ++ [config]) next := by
  have built : session.build renders config.info = .ok next := by
    unfold addServer at extended
    split at extended
    · cases extended
    · exact extended
  obtain ⟨server, info, added⟩ := Session.build_eq_ok built
  refine ⟨.added serves.built added, (Session.mark_of_addServer added).trans serves.mark, ?_⟩
  have values := (Router.register_eq_ok (Session.register_of_addServer added)).2.2
  rw [values, List.map_append, List.map_append, serves.infos, List.map_singleton,
    List.map_singleton, info]

theorem Serves.addAll (serves : Serves mark configs session)
    (extended : more.foldlM (addServer renders) session = .ok next) :
    Serves mark (configs ++ more) next := by
  induction more generalizing configs session with
  | nil =>
    cases extended
    rw [List.append_nil]
    exact serves
  | cons config later ih =>
    rw [List.foldlM_cons] at extended
    obtain ⟨middle, added, extended⟩ := bind_eq_ok extended
    rw [← List.singleton_append, ← List.append_assoc]
    exact ih (serves.add added) extended

theorem start_eq_ok {config : Config} {localeFile : String → Option String} {bot : Bot}
    (started : start config localeFile = .ok bot) :
    ∃ catalog, build config catalog = .ok bot := by
  unfold start at started
  cases servers : config.servers.isEmpty with
  | true =>
    simp only [servers] at started
    cases started
  | false =>
    simp only [servers, Bool.false_eq_true, if_false] at started
    split at started
    · obtain ⟨catalog, _, started⟩ := bind_eq_ok started
      exact ⟨catalog, mapError_eq_ok started⟩
    · obtain ⟨catalog, _, started⟩ := bind_eq_ok started
      exact ⟨catalog, mapError_eq_ok started⟩

theorem start_serves {config : Config} {localeFile : String → Option String} {bot : Bot}
    (started : start config localeFile = .ok bot) :
    Serves config.mark config.servers bot.session := by
  obtain ⟨catalog, built⟩ := start_eq_ok started
  have start : Serves config.mark [] (Session.empty config.mark catalog) :=
    ⟨.empty config.mark catalog, rfl, rfl⟩
  obtain ⟨session, added, built⟩ := bind_eq_ok built
  cases built
  exact start.addAll added

/-- In a bot that starts, the server of each configuration answers exactly to those of its aliases
that are a word of the server's, blanks at the end apart, and to none if the mark is a blank. -/
theorem start_usable_iff {config : Config} {localeFile : String → Option String} {bot : Bot}
    (started : start config localeFile = .ok bot) {position : Nat} {described : ServerConfig}
    (listed : config.servers[position]? = some described) :
    ∃ server : Server,
      bot.session.servers.values[position]? = some server ∧ server.info = described.info ∧
        ∀ name ∈ described.aliases,
          bot.session.Usable position server name ↔
            isBlank config.mark = false ∧ IsWord (trimEnd name) ∧
              trimEnd name ∈ described.aliases := by
  have serves := start_serves started
  have described_info : (bot.session.servers.values.map Server.info)[position]? =
      some described.info := by
    rw [serves.infos, List.getElem?_map, listed, Option.map_some]
  rw [List.getElem?_map, Option.map_eq_some_iff] at described_info
  obtain ⟨server, there, info⟩ := described_info
  refine ⟨server, there, info, fun name _ => ?_⟩
  have aliases : server.aliases = described.aliases := congrArg ServerInfo.aliases info
  rw [Session.usable_iff serves.built there, serves.mark, aliases]

def oneServer (name : String) : Config :=
  ⟨'!', 10, none, none, [⟨"Example", [name], "example.org", "http://example.org", none,
    .ofFlags (["lookup_by_name", "top_by_name"].contains ·)⟩]⟩

theorem start_usable_iff_word :
    ∃ bot server, start (oneServer "ex") (fun _ => none) = .ok bot ∧
      bot.session.servers.values[0]? = some server ∧ bot.session.Usable 0 server "ex" := by
  obtain ⟨bot, started⟩ : ∃ bot, start (oneServer "ex") (fun _ => none) = .ok bot := ⟨_, rfl⟩
  have listed : (oneServer "ex").servers[0]? = some _ := rfl
  obtain ⟨server, there, _, usable⟩ := start_usable_iff started listed
  exact ⟨bot, server, started, there, (usable "ex" (by decide)).2 (by decide)⟩

/-- A bot starts with an alias of two words, and answers neither to it nor to a command behind it. -/
theorem start_unusable :
    ∃ bot server, start (oneServer "my server") (fun _ => none) = .ok bot ∧
      bot.session.servers.values[0]? = some server ∧ server.aliases = ["my server"] ∧
      ¬ bot.session.Usable 0 server "my server" ∧
      (bot.session.route "!my server" matches .ignored) ∧
      (bot.session.route "!my server top" matches .ignored) := by
  refine ⟨_, _, rfl, rfl, rfl, ?_, rfl, rfl⟩
  intro usable
  have help := usable.help
  cases help

end Bot

end RhythmBot
