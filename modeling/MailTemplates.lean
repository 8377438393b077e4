import MailTemplates.Build.Artifact
import MailTemplates.Build.Pipeline
import MailTemplates.Build.Run
import MailTemplates.CommandLine.Arguments
import MailTemplates.CommandLine.Run
import MailTemplates.CommandLine.Setting
import MailTemplates.CommandLine.Snapshot
import MailTemplates.Compiler.Basic
import MailTemplates.Compiler.External
import MailTemplates.Failure
import MailTemplates.FileSize
import MailTemplates.FileTree.Basic
import MailTemplates.FileTree.Path
import MailTemplates.FileTree.Resolve
import MailTemplates.FileTree.Write
import MailTemplates.Handlebars.Basic
import MailTemplates.Handlebars.Fault
import MailTemplates.Handlebars.Helper
import MailTemplates.Handlebars.Parser
import MailTemplates.Handlebars.Render
import MailTemplates.Handlebars.Scan
import MailTemplates.Handlebars.Scope
import MailTemplates.Handlebars.Token
import MailTemplates.Handlebars.Whitespace
import MailTemplates.Json.Basic
import MailTemplates.Json.Cursor
import MailTemplates.Json.Decode
import MailTemplates.Json.Fault
import MailTemplates.Json.Parser
import MailTemplates.Json.Printer
import MailTemplates.Json.Schema
import MailTemplates.Mail.Address
import MailTemplates.Mail.Dialogue
import MailTemplates.Mail.Sending
import MailTemplates.Main
import MailTemplates.Manifest.Basic
import MailTemplates.Manifest.Template
import MailTemplates.Number.Binary64
import MailTemplates.Number.Decimal
import MailTemplates.Project.Basic
import MailTemplates.Project.Cascade
import MailTemplates.Project.Load
import MailTemplates.Project.Package
import MailTemplates.Remote.Client
import MailTemplates.Remote.Exchange
import MailTemplates.Remote.Host
import MailTemplates.Remote.HostCharacter
import MailTemplates.Remote.HostName
import MailTemplates.Remote.Percent
import MailTemplates.Remote.Punycode
import MailTemplates.Remote.Store
import MailTemplates.Remote.Url
import MailTemplates.Remote.Version
import MailTemplates.Script.Arithmetic
import MailTemplates.Script.Basic
import MailTemplates.Script.Builtin
import MailTemplates.Script.ByteText
import MailTemplates.Script.CharSet
import MailTemplates.Script.Expansion
import MailTemplates.Script.Files
import MailTemplates.Script.Format
import MailTemplates.Script.Glob
import MailTemplates.Script.Machine
import MailTemplates.Script.Parser
import MailTemplates.Script.Pattern
import MailTemplates.Script.Program
import MailTemplates.Script.Redirect
import MailTemplates.Script.Regex
import MailTemplates.Script.Run
import MailTemplates.Script.Test
import MailTemplates.Script.Token
import MailTemplates.Script.Tool.Basic
import MailTemplates.Script.Tool.Characters
import MailTemplates.Script.Tool.Copying
import MailTemplates.Script.Tool.Counting
import MailTemplates.Script.Tool.Fields
import MailTemplates.Script.Tool.Grep
import MailTemplates.Script.Tool.Names
import MailTemplates.Script.Tool.Numbers
import MailTemplates.Script.Tool.Order
import MailTemplates.Script.Tool.Sed
import MailTemplates.Script.Tool.Table
import MailTemplates.Script.WordReader
import MailTemplates.Stage.Basic
import MailTemplates.Stage.Include
import MailTemplates.Stage.Language
import MailTemplates.Stage.RawMarker
import MailTemplates.Stage.Registry
import MailTemplates.Stage.SampleData
import MailTemplates.Sync.Comparable
import MailTemplates.Sync.Report
import MailTemplates.Sync.Run
import MailTemplates.Sync.Schedule
import MailTemplates.Text.Blank
import MailTemplates.Text.CodePoints
import MailTemplates.Text.Composition
import MailTemplates.Text.Entities
import MailTemplates.Text.Piece
import MailTemplates.Text.Quoted
import MailTemplates.Text.Utf8
import MailTemplates.Text.Word
import MailTemplates.Translation.Placeholder
import MailTemplates.Translation.Table
import MailTemplates.Proofs.Sync.Settling
import MailTemplates.Proofs.Fallible
import MailTemplates.Proofs.Sync.Collecting
import MailTemplates.Proofs.Sync.Watching
import MailTemplates.Proofs.Sync.UpdateSet
import MailTemplates.Proofs.Sync.Contents
import MailTemplates.Proofs.Sync.Convergence
import MailTemplates.Proofs.Sync.PublishOrder
import MailTemplates.Proofs.Text.Erasing
import MailTemplates.Proofs.Stage.Marking
import MailTemplates.Proofs.Stage.Running
import MailTemplates.Proofs.Stage.Preview
import MailTemplates.Proofs.FileTree.Walking
import MailTemplates.Proofs.FileTree.Writing
import MailTemplates.Proofs.FileTree.Paths
import MailTemplates.Proofs.FileTree.Directories
import MailTemplates.Proofs.FileTree.Leading
import MailTemplates.Proofs.FileTree.Parents
import MailTemplates.Proofs.Stage.Reading
import MailTemplates.Proofs.Build.Progress
import MailTemplates.Proofs.Build.Landing
import MailTemplates.Proofs.Build.Failing
import MailTemplates.Proofs.Sync.Agreement
import MailTemplates.Proofs.FileTree.Unlinked
import MailTemplates.Proofs.Stage.Unread
import MailTemplates.Proofs.Remote.Fetching
import MailTemplates.Proofs.Sync.Service
import MailTemplates.Proofs.Json.Numbers
import MailTemplates.Proofs.Json.Ordered
import MailTemplates.Proofs.Json.Spelling
import MailTemplates.Proofs.Manifest.Entries
import MailTemplates.Proofs.FileTree.Canonical
import MailTemplates.Proofs.Project.Climbing
import MailTemplates.Proofs.Project.Searching
import MailTemplates.Proofs.Project.Loading
import MailTemplates.Proofs.Text.Cutting
import MailTemplates.Proofs.Sync.Reporting
import MailTemplates.Proofs.Stage.Including
import MailTemplates.Proofs.FileTree.Revising
import MailTemplates.Proofs.Stage.Sparing
import MailTemplates.Proofs.Project.Reordering
import MailTemplates.Proofs.FileTree.Moving
import MailTemplates.Proofs.Project.Confining
import MailTemplates.Proofs.Translation.Filling
import MailTemplates.Proofs.Build.Naming
import MailTemplates.Proofs.Stage.Splicing
import MailTemplates.Proofs.Stage.Embedding
import MailTemplates.Proofs.Stage.Sampling
import MailTemplates.Proofs.Stage.Refusing
import MailTemplates.Proofs.Stage.Composing
import MailTemplates.Proofs.Stage.Stripping
import MailTemplates.Proofs.Translation.Sharing
import MailTemplates.Proofs.Handlebars.Mustaches
import MailTemplates.Proofs.Stage.BlockTag
import MailTemplates.Proofs.Stage.Deferring
import MailTemplates.Proofs.Manifest.Accepting
import MailTemplates.Proofs.Stage.Overlaying
import MailTemplates.Proofs.Mail.Asking
import MailTemplates.Proofs.Mail.Addressing
import MailTemplates.Proofs.Mail.Joining
import MailTemplates.Proofs.Number.Nearest
import MailTemplates.Proofs.Number.Notation
import MailTemplates.Proofs.Number.Rounding
import MailTemplates.Proofs.FileSize
import MailTemplates.Proofs.FileTree.Opening
import MailTemplates.Proofs.Stage.Blaming
import MailTemplates.Proofs.Remote.Encoding
import MailTemplates.Proofs.Remote.Segments
import MailTemplates.Proofs.Remote.References
import MailTemplates.Proofs.Remote.Resources
import MailTemplates.Proofs.Text.Escaping
import MailTemplates.Proofs.Translation.Escaping
