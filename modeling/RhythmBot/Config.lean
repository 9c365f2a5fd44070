import RhythmBot.Capabilities
import RhythmBot.Catalog
import RhythmBot.Json.Number
import RhythmBot.Settings.Document
import RhythmBot.Settings.Environment
/-!
The configuration of the bot and its texts, out of settings files and the environment.
-/

namespace RhythmBot

open Setting

structure ServerConfig where
  name : String
  aliases : List String
  link : String
  url : String
  apiKey : Option String
  capabilities : Capabilities
  deriving Repr, DecidableEq

structure Config where
  mark : Char
  timeout : Nat
  localePath : Option String
  renderUrl : Option String
  servers : List ServerConfig
  deriving Repr, DecidableEq

def Capabilities.ofSetting (setting : Setting) : Except SettingsError Capabilities := do
  let fields ← setting.fields flagNames
  let flags ← fields.mapM (Field.value asFlag)
  let named := flagNames.zip flags
  return ofFlags fun name => (entryValue? name named).join.getD false

/-- The configuration of a server. The values there are looked at before those that are missing. -/
def ServerConfig.ofSetting (setting : Setting) : Except SettingsError ServerConfig := do
  let fields ← setting.fields ["name", "aliases", "link", "url", "api_key", "capabilities"]
  match fields with
  | [name, aliases, link, url, apiKey, capabilities] =>
    let foundName ← name.value asText
    let foundAliases ← aliases.value (asList asText)
    let foundLink ← link.value asText
    let foundUrl ← url.value asText
    let foundKey ← apiKey.value (asOption asText)
    let foundCapabilities ← capabilities.value Capabilities.ofSetting
    return {
      name := ← name.require foundName
      aliases := ← aliases.require foundAliases
      link := ← link.require foundLink
      url := ← url.require foundUrl
      apiKey := foundKey.join
      capabilities := foundCapabilities.getD Capabilities.none }
  | _ => .error .invalidValue

namespace Config

def defaultMark : Char := '!'

def defaultTimeout : Nat := 10

def renderUrl? (setting : Setting) : Except SettingsError (Option String) := do
  let fields ← setting.fields ["url"]
  match fields with
  | [.given url] => asOption asText url
  | [.leftOut] => return none
  | _ => .error .invalidValue

/-- The configuration of a table of settings. The values there are looked at in the order of their
names, and before those that are missing. -/
def ofSetting (setting : Setting) : Except SettingsError Config := do
  let fields ← setting.fields ["http_timeout", "locale_path", "prefix", "render", "servers"]
  match fields with
  | [timeout, localePath, mark, render, servers] =>
    let foundTimeout ← timeout.value (asNatural Json.largestWord)
    let foundPath ← localePath.value (asOption asText)
    let foundMark ← mark.value asChar
    let foundRender ← render.value renderUrl?
    let foundServers ← servers.value (asList ServerConfig.ofSetting)
    return {
      mark := foundMark.getD defaultMark
      timeout := foundTimeout.getD defaultTimeout
      localePath := foundPath.join
      renderUrl := foundRender.join
      servers := ← servers.require foundServers }
  | _ => .error .invalidValue

/-- The configuration of a file, if it is there, with the environment over it. The environment is
read even if the file is unreadable, and its faults come first. -/
def load (file : Option String) (environment : List (String × String)) :
    Except SettingsError Config := do
  let later ← Settings.ofEnvironment environment
  let settings ← Settings.ofFile file
  ofSetting (settings.under later)

end Config

/-- The English texts with those of a file over them, if it is there; every one has to be a text. -/
def Catalog.load (file : Option String) : Except SettingsError Catalog := do
  match ← Settings.ofFile file with
  | .table entries =>
    let texts ← entries.mapM fun (key, setting) => do return (key, ← asText setting)
    return .overridden texts
  | _ => .error .invalidValue

end RhythmBot
