import Guildhall.Action
import Guildhall.Bot.Config
import Guildhall.Bot.Console
import Guildhall.Bot.Dispatch
import Guildhall.Bot.LogFilter
import Guildhall.Bot.Options
import Guildhall.Bot.Session
import Guildhall.Bot.Settings
import Guildhall.Cache
import Guildhall.Command.Authoring
import Guildhall.Command.Builtin
import Guildhall.Command.Cooldowns
import Guildhall.Command.Overview
import Guildhall.Command.Permissions
import Guildhall.Command.Registry
import Guildhall.Command.Run
import Guildhall.Command.Signups
import Guildhall.Command.Spec
import Guildhall.Command.Subcommand
import Guildhall.Command.Toggles
import Guildhall.Environment.Assignment
import Guildhall.Environment.Basic
import Guildhall.Environment.Entry
import Guildhall.Environment.File
import Guildhall.Guild.Directory
import Guildhall.Guild.Events
import Guildhall.Guild.Keywords
import Guildhall.Guild.Message
import Guildhall.Guild.Scope
import Guildhall.Main
import Guildhall.Pattern.Basic
import Guildhall.Pattern.Charset
import Guildhall.Pattern.Fold
import Guildhall.Pattern.Meaning
import Guildhall.Pattern.Node
import Guildhall.Pattern.Program
import Guildhall.Pattern.Property
import Guildhall.Pattern.Reader
import Guildhall.Pattern.Search
import Guildhall.Policy.Rank
import Guildhall.Policy.Resolver
import Guildhall.Policy.Rule
import Guildhall.Proofs.ActionWords
import Guildhall.Proofs.AnnouncedWait
import Guildhall.Proofs.Answers
import Guildhall.Proofs.AuthoredCommands
import Guildhall.Proofs.BotViews
import Guildhall.Proofs.BuiltinPlaceholders
import Guildhall.Proofs.Cache
import Guildhall.Proofs.Calendar
import Guildhall.Proofs.CanonicalTrie
import Guildhall.Proofs.CaseFolding
import Guildhall.Proofs.CheckedAction
import Guildhall.Proofs.CommandTexts
import Guildhall.Proofs.Commands
import Guildhall.Proofs.Composition
import Guildhall.Proofs.ConsoleCalls
import Guildhall.Proofs.ConsoleHistory
import Guildhall.Proofs.Cooldown
import Guildhall.Proofs.Countdown
import Guildhall.Proofs.DefaultRules
import Guildhall.Proofs.DirectoryCalls
import Guildhall.Proofs.Disk
import Guildhall.Proofs.Dispatch
import Guildhall.Proofs.DurationTexts
import Guildhall.Proofs.Escaping
import Guildhall.Proofs.EventSeeds
import Guildhall.Proofs.FailedCalls
import Guildhall.Proofs.FileBackend
import Guildhall.Proofs.FirstKeyword
import Guildhall.Proofs.Frame
import Guildhall.Proofs.FullMatches
import Guildhall.Proofs.Governing
import Guildhall.Proofs.Guild
import Guildhall.Proofs.GuildDocument
import Guildhall.Proofs.GuildFile
import Guildhall.Proofs.GuildFiles
import Guildhall.Proofs.Isolation
import Guildhall.Proofs.KeptCommands
import Guildhall.Proofs.ListedRows
import Guildhall.Proofs.LiteralKeywords
import Guildhall.Proofs.LoadedGuilds
import Guildhall.Proofs.LooseMarks
import Guildhall.Proofs.LowerCase
import Guildhall.Proofs.MentionedMembers
import Guildhall.Proofs.Mishap
import Guildhall.Proofs.NormalTriggers
import Guildhall.Proofs.Numeral
import Guildhall.Proofs.OwnerAccess
import Guildhall.Proofs.PastedPatterns
import Guildhall.Proofs.PatternPrograms
import Guildhall.Proofs.PatternSearches
import Guildhall.Proofs.PatternTexts
import Guildhall.Proofs.Persistence
import Guildhall.Proofs.Policy
import Guildhall.Proofs.Preloaded
import Guildhall.Proofs.RandomDraws
import Guildhall.Proofs.ReadAccounting
import Guildhall.Proofs.Registry
import Guildhall.Proofs.RegistryCalls
import Guildhall.Proofs.Replies
import Guildhall.Proofs.RoleRules
import Guildhall.Proofs.SetUps
import Guildhall.Proofs.ShownKeys
import Guildhall.Proofs.ShownTriggers
import Guildhall.Proofs.SoundPatterns
import Guildhall.Proofs.Spacing
import Guildhall.Proofs.Spelling
import Guildhall.Proofs.SplitTexts
import Guildhall.Proofs.Store
import Guildhall.Proofs.StoreViews
import Guildhall.Proofs.StrippedMentions
import Guildhall.Proofs.Table
import Guildhall.Proofs.Template
import Guildhall.Proofs.Timestamp
import Guildhall.Proofs.Transparency
import Guildhall.Proofs.Trie
import Guildhall.Proofs.TrieCalls
import Guildhall.Proofs.TypedKeys
import Guildhall.Proofs.WordPrefixes
import Guildhall.Proofs.Words
import Guildhall.Proofs.WrittenRows
import Guildhall.Store.Basic
import Guildhall.Store.Disk
import Guildhall.Store.Document
import Guildhall.Store.Guild
import Guildhall.Store.GuildFile
import Guildhall.Store.Switched
import Guildhall.Table
import Guildhall.Template.Draws
import Guildhall.Template.Expand
import Guildhall.Template.Mention
import Guildhall.Template.Placeholder
import Guildhall.Template.Tree
import Guildhall.Text.BinaryProperty
import Guildhall.Text.Blank
import Guildhall.Text.Casing
import Guildhall.Text.Casing.Table
import Guildhall.Text.Category
import Guildhall.Text.Letters
import Guildhall.Text.Line
import Guildhall.Text.Number
import Guildhall.Text.Ranges
import Guildhall.Text.Script
import Guildhall.Time.Basic
import Guildhall.Time.Calendar
import Guildhall.Time.Timestamp
import Guildhall.Trie
import Guildhall.Yaml.Cursor
import Guildhall.Yaml.Decode
import Guildhall.Yaml.Node
import Guildhall.Yaml.Printer
import Guildhall.Yaml.Scalar
import Guildhall.Yaml.Schema
import Guildhall.Yaml.Token
import Guildhall.Yaml.Value
