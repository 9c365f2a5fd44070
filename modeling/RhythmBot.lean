import RhythmBot.Answer
import RhythmBot.Answer.Basic
import RhythmBot.Answer.Boards
import RhythmBot.Answer.Link
import RhythmBot.Answer.Play
import RhythmBot.Answer.Profile
import RhythmBot.Arguments
import RhythmBot.Bot
import RhythmBot.Capabilities
import RhythmBot.Catalog
import RhythmBot.Command
import RhythmBot.Config
import RhythmBot.Console
import RhythmBot.Decimal.Binary
import RhythmBot.Decimal.Fixed
import RhythmBot.Decimal.Shortest
import RhythmBot.Http.Answers
import RhythmBot.Http.Drawing
import RhythmBot.Http.Exchange
import RhythmBot.Http.Form
import RhythmBot.Http.Percent
import RhythmBot.Http.Service
import RhythmBot.Http.Url
import RhythmBot.Identity
import RhythmBot.Json.Number
import RhythmBot.Json.Reader
import RhythmBot.Json.Shape
import RhythmBot.Json.Value
import RhythmBot.Launch
import RhythmBot.Leaderboard
import RhythmBot.Main
import RhythmBot.MediaType
import RhythmBot.Message
import RhythmBot.Mode
import RhythmBot.Mods
import RhythmBot.Player
import RhythmBot.Proofs.Answer.Buttons
import RhythmBot.Proofs.Answer.Calls
import RhythmBot.Proofs.Answer.Ending
import RhythmBot.Proofs.Answer.Numbering
import RhythmBot.Proofs.Answer.Permitted
import RhythmBot.Proofs.Answer.Run
import RhythmBot.Proofs.Answer.Wording
import RhythmBot.Proofs.Answer.Written
import RhythmBot.Proofs.Arguments
import RhythmBot.Proofs.Command
import RhythmBot.Proofs.CommandLine
import RhythmBot.Proofs.CommandLine.Canonical
import RhythmBot.Proofs.Console
import RhythmBot.Proofs.Decimal.Double
import RhythmBot.Proofs.Decimal.Fixed
import RhythmBot.Proofs.Decimal.Grid
import RhythmBot.Proofs.Decimal.Nearest
import RhythmBot.Proofs.Decimal.Rounding
import RhythmBot.Proofs.Decimal.Shortest
import RhythmBot.Proofs.Http.Form
import RhythmBot.Proofs.Http.Percent
import RhythmBot.Proofs.Http.Requests
import RhythmBot.Proofs.Http.Url
import RhythmBot.Proofs.Json.Exact
import RhythmBot.Proofs.Json.Finite
import RhythmBot.Proofs.Json.Literal
import RhythmBot.Proofs.Json.RoundTrip
import RhythmBot.Proofs.Json.Shape
import RhythmBot.Proofs.Leaderboard
import RhythmBot.Proofs.Leaderboard.Chart
import RhythmBot.Proofs.Mode
import RhythmBot.Proofs.Mods
import RhythmBot.Proofs.Mods.Shown
import RhythmBot.Proofs.Report
import RhythmBot.Proofs.Router
import RhythmBot.Proofs.Router.Registrations
import RhythmBot.Proofs.Session.Aliases
import RhythmBot.Proofs.Session.BeatmapBoard
import RhythmBot.Proofs.Session.Capable
import RhythmBot.Proofs.Session.ChatBoard
import RhythmBot.Proofs.Session.Confined
import RhythmBot.Proofs.Session.Conversation
import RhythmBot.Proofs.Session.FollowUps
import RhythmBot.Proofs.Session.History
import RhythmBot.Proofs.Session.LastBeatmap
import RhythmBot.Proofs.Session.Linked
import RhythmBot.Proofs.Session.Members
import RhythmBot.Proofs.Session.Numbering
import RhythmBot.Proofs.Session.Owners
import RhythmBot.Proofs.Session.Replies
import RhythmBot.Proofs.Session.Resolution
import RhythmBot.Proofs.Session.Routing
import RhythmBot.Proofs.Session.SamePlayer
import RhythmBot.Proofs.Session.Turn
import RhythmBot.Proofs.Store.Commit
import RhythmBot.Proofs.Store.LastRecord
import RhythmBot.Proofs.Store.Records
import RhythmBot.Proofs.Store.Reload
import RhythmBot.Proofs.Store.Snapshot
import RhythmBot.Proofs.Store.WriteThrough
import RhythmBot.Proofs.Table
import RhythmBot.Proofs.Template.Filling
import RhythmBot.Proofs.Template.Pieces
import RhythmBot.Proofs.Text.Bytes
import RhythmBot.Proofs.Text.Spacing
import RhythmBot.Proofs.Text.Words
import RhythmBot.Remote
import RhythmBot.Reply
import RhythmBot.Report
import RhythmBot.Router
import RhythmBot.Score
import RhythmBot.Server
import RhythmBot.Session
import RhythmBot.Settings.Document
import RhythmBot.Settings.Environment
import RhythmBot.Settings.Numeral
import RhythmBot.Settings.Path
import RhythmBot.Settings.Value
import RhythmBot.Store.Chats
import RhythmBot.Store.File
import RhythmBot.Store.Location
import RhythmBot.Store.Players
import RhythmBot.Table
import RhythmBot.Template
import RhythmBot.Text.Blank
import RhythmBot.Text.Case
import RhythmBot.Text.Whole
import RhythmBot.Yaml.Cursor
import RhythmBot.Yaml.Node
import RhythmBot.Yaml.Scalar
import RhythmBot.Yaml.Tag
import RhythmBot.Yaml.Token
