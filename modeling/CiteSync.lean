import CiteSync.Citation.Context
import CiteSync.Citation.Doi
import CiteSync.Citation.Key
import CiteSync.Citation.Pinned
import CiteSync.Command.Arguments
import CiteSync.Command.Invocation
import CiteSync.Command.Run
import CiteSync.Completion.Bibliography
import CiteSync.Completion.Candidate
import CiteSync.Completion.CrossReference
import CiteSync.Completion.Filter
import CiteSync.Completion.Line
import CiteSync.Completion.Panel.Course
import CiteSync.Completion.Panel.Operations
import CiteSync.Completion.Panel.State
import CiteSync.Completion.Panel.Steps
import CiteSync.Completion.Provider
import CiteSync.Completion.Query
import CiteSync.Decimal.Binary
import CiteSync.Decimal.Fixed
import CiteSync.Decimal.Shortest
import CiteSync.FrontMatter.Directive
import CiteSync.FrontMatter.Fences
import CiteSync.Json.Basic
import CiteSync.Json.Reader
import CiteSync.Json.Shown
import CiteSync.Json.Writer
import CiteSync.KeyService.Endpoint
import CiteSync.Library.Check
import CiteSync.Library.Closure
import CiteSync.Library.Outline
import CiteSync.Library.Record
import CiteSync.Library.Reply
import CiteSync.Library.Source
import CiteSync.Log.Channels
import CiteSync.Log.Files
import CiteSync.Log.Level
import CiteSync.Log.Record
import CiteSync.Log.Timing
import CiteSync.Main
import CiteSync.Proofs.Citation.Cursor
import CiteSync.Proofs.Citation.Grammar
import CiteSync.Proofs.Citation.PinnedLines
import CiteSync.Proofs.Citation.Pins
import CiteSync.Proofs.Citation.Suggestion
import CiteSync.Proofs.Citation.Typeable
import CiteSync.Proofs.Command.Counts
import CiteSync.Proofs.Completion.Cycles
import CiteSync.Proofs.Completion.Loaded
import CiteSync.Proofs.Completion.Merging
import CiteSync.Proofs.Completion.Narrowing
import CiteSync.Proofs.Completion.Offers
import CiteSync.Proofs.Completion.Panel.Answers
import CiteSync.Proofs.Completion.Panel.Arrivals
import CiteSync.Proofs.Completion.Panel.Changes
import CiteSync.Proofs.Completion.Panel.Departures
import CiteSync.Proofs.Completion.Panel.Frames
import CiteSync.Proofs.Completion.Panel.Generations
import CiteSync.Proofs.Completion.Panel.Hidden
import CiteSync.Proofs.Completion.Panel.Lockstep
import CiteSync.Proofs.Completion.Panel.Moves
import CiteSync.Proofs.Completion.Panel.Outlines
import CiteSync.Proofs.Completion.Panel.Outside
import CiteSync.Proofs.Completion.Panel.Overlapping
import CiteSync.Proofs.Completion.Panel.Pairs
import CiteSync.Proofs.Completion.Panel.Progress
import CiteSync.Proofs.Completion.Panel.Queries
import CiteSync.Proofs.Completion.Panel.Refinement
import CiteSync.Proofs.Completion.Panel.Running
import CiteSync.Proofs.Completion.Panel.Sharing
import CiteSync.Proofs.Completion.Panel.Stretches
import CiteSync.Proofs.Completion.Panel.Superseded
import CiteSync.Proofs.Completion.Panel.Turns
import CiteSync.Proofs.Completion.Panel.Unasked
import CiteSync.Proofs.Completion.Panel.Underway
import CiteSync.Proofs.Completion.Panel.Undisturbed
import CiteSync.Proofs.Completion.Ranking
import CiteSync.Proofs.Completion.Regrouping
import CiteSync.Proofs.Completion.Sorting
import CiteSync.Proofs.Completion.Typing
import CiteSync.Proofs.Firsts
import CiteSync.Proofs.FrontMatter.Fencing
import CiteSync.Proofs.KeyService.Lookup
import CiteSync.Proofs.Library.Descendants
import CiteSync.Proofs.Library.Outline
import CiteSync.Proofs.Lists
import CiteSync.Proofs.Remote.Calls
import CiteSync.Proofs.Remote.Retrying
import CiteSync.Proofs.Session.Belonging
import CiteSync.Proofs.Session.Closing
import CiteSync.Proofs.Session.Disabling
import CiteSync.Proofs.Session.Doubt
import CiteSync.Proofs.Session.Interleaving
import CiteSync.Proofs.Session.Ledger
import CiteSync.Proofs.Session.Merging
import CiteSync.Proofs.Session.Mishaps
import CiteSync.Proofs.Session.OneKey
import CiteSync.Proofs.Session.Remembrance
import CiteSync.Proofs.Session.Resolution
import CiteSync.Proofs.Session.Steps
import CiteSync.Proofs.Session.Unchanged
import CiteSync.Proofs.Session.Visit
import CiteSync.Proofs.Session.Whole
import CiteSync.Proofs.Text.Case
import CiteSync.Proofs.Text.Lines
import CiteSync.Proofs.Text.Pattern
import CiteSync.Proofs.Text.Truncation
import CiteSync.Proofs.Yaml.EmptyLines
import CiteSync.Proofs.Yaml.Lexing
import CiteSync.Proofs.Yaml.Marks
import CiteSync.Proofs.Yaml.Places
import CiteSync.Proofs.Yaml.Scalars
import CiteSync.Proofs.Zotero.Agreement
import CiteSync.Proofs.Zotero.Catalogue
import CiteSync.Proofs.Zotero.Filling
import CiteSync.Proofs.Zotero.FullSync
import CiteSync.Proofs.Zotero.History
import CiteSync.Proofs.Zotero.Incremental
import CiteSync.Proofs.Zotero.Journal
import CiteSync.Proofs.Zotero.Keying
import CiteSync.Proofs.Zotero.Loads
import CiteSync.Proofs.Zotero.Records
import CiteSync.Proofs.Zotero.Refusals
import CiteSync.Proofs.Zotero.Reporting
import CiteSync.Proofs.Zotero.Settling
import CiteSync.Proofs.Zotero.Shelves
import CiteSync.Proofs.Zotero.Verdicts
import CiteSync.Remote.Call
import CiteSync.Remote.Failure
import CiteSync.Remote.Library
import CiteSync.Remote.Retry
import CiteSync.Remote.Script
import CiteSync.Session.Cycle
import CiteSync.Session.Merge
import CiteSync.Session.State
import CiteSync.Session.Store
import CiteSync.Session.Traffic
import CiteSync.Settings
import CiteSync.Text.Blank
import CiteSync.Text.Case
import CiteSync.Text.Digit
import CiteSync.Text.Latin
import CiteSync.Text.Pattern
import CiteSync.Text.Printable
import CiteSync.Text.Quoted
import CiteSync.Text.Ranges
import CiteSync.Text.Search
import CiteSync.Text.Truncated
import CiteSync.Text.WholeNumber
import CiteSync.Text.Word
import CiteSync.Yaml.Fault
import CiteSync.Yaml.Node
import CiteSync.Yaml.Node.Reader
import CiteSync.Yaml.Tag
import CiteSync.Yaml.Token
import CiteSync.Yaml.Token.Cursor
import CiteSync.Yaml.Token.Lexer
import CiteSync.Yaml.Token.Mark
import CiteSync.Yaml.Token.Scalar
import CiteSync.Yaml.Value
import CiteSync.Yaml.Value.Builder
import CiteSync.Yaml.Value.Scalar
import CiteSync.Zotero.Answer
import CiteSync.Zotero.Client
import CiteSync.Zotero.Holdings
import CiteSync.Zotero.Service
import CiteSync.Zotero.Version
