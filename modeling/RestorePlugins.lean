import RestorePlugins.Action.Annotations
import RestorePlugins.Action.ClaimedVolume
import RestorePlugins.Action.StorageClass
import RestorePlugins.BuildLine
import RestorePlugins.Catalogue.Opening
import RestorePlugins.Catalogue.Records
import RestorePlugins.Catalogue.Snapshotter
import RestorePlugins.CommandLine.Argument
import RestorePlugins.CommandLine.Command
import RestorePlugins.CommandLine.Grammar
import RestorePlugins.CommandLine.Run
import RestorePlugins.CommandLine.Tables
import RestorePlugins.Decimal.Binary64
import RestorePlugins.Decimal.Shortest
import RestorePlugins.Entries
import RestorePlugins.Files.FileSystem
import RestorePlugins.Files.Listening
import RestorePlugins.Files.Location
import RestorePlugins.Files.Store
import RestorePlugins.Json.Basic
import RestorePlugins.Json.Fault
import RestorePlugins.Json.Number
import RestorePlugins.Json.Parser
import RestorePlugins.Json.Path
import RestorePlugins.Json.Printer
import RestorePlugins.Json.Record
import RestorePlugins.Json.Scan
import RestorePlugins.Json.Skip
import RestorePlugins.Main
import RestorePlugins.Plugin.Builtin
import RestorePlugins.Plugin.Contract
import RestorePlugins.Plugin.Error
import RestorePlugins.Plugin.Kind
import RestorePlugins.Plugin.Name
import RestorePlugins.Plugin.Registry
import RestorePlugins.Resource
import RestorePlugins.Service.Client
import RestorePlugins.Service.Host
import RestorePlugins.Service.Messages
import RestorePlugins.Service.Method
import RestorePlugins.Service.Status
import RestorePlugins.Settings.Address
import RestorePlugins.Settings.Endpoints
import RestorePlugins.Settings.Plugins
import RestorePlugins.Text.CharacterWidth
import RestorePlugins.Text.DisplayWidth
import RestorePlugins.Text.Emoji
import RestorePlugins.Text.Printable
import RestorePlugins.Text.Quoted
import RestorePlugins.Text.Ranges
import RestorePlugins.Text.Table
import RestorePlugins.Text.Utf8
import RestorePlugins.Text.WhiteSpace
import RestorePlugins.Toml.Document
import RestorePlugins.Toml.Parser
import RestorePlugins.Toml.Scan
import RestorePlugins.Wire.Kinds
import RestorePlugins.Wire.Layout
import RestorePlugins.Wire.Varint
import RestorePlugins.Proofs.Json.Editing
import RestorePlugins.Proofs.Action.Order
import RestorePlugins.Proofs.Json.Numbers
import RestorePlugins.Proofs.Json.RoundTrip
import RestorePlugins.Proofs.Json.Records
import RestorePlugins.Proofs.Wire.Kinds
import RestorePlugins.Proofs.Service.Refinement
import RestorePlugins.Proofs.Catalogue.Outcomes
import RestorePlugins.Proofs.Catalogue.Permanence
import RestorePlugins.Proofs.Catalogue.Crash
import RestorePlugins.Proofs.Catalogue.Failure
import RestorePlugins.Proofs.Catalogue.Inheritance
import RestorePlugins.Proofs.Catalogue.Live
import RestorePlugins.Proofs.Service.Isolation
import RestorePlugins.Proofs.Plugin.Registration
import RestorePlugins.Proofs.Catalogue.Concurrency
import RestorePlugins.Proofs.Service.WireFormat
import RestorePlugins.Proofs.Service.Documents
import RestorePlugins.Proofs.Json.Walks
import RestorePlugins.Proofs.Plugin.Names
import RestorePlugins.Proofs.Catalogue.Handles
import RestorePlugins.Proofs.Catalogue.StoredRecords
import RestorePlugins.Proofs.Catalogue.Unreadable
import RestorePlugins.Proofs.Settings.Selection
import RestorePlugins.Proofs.Catalogue.Retries
import RestorePlugins.Proofs.Files.Listening
import RestorePlugins.Proofs.CommandLine.Spelling
import RestorePlugins.Proofs.CommandLine.PrintedItems
import RestorePlugins.Proofs.BuildOutput
import RestorePlugins.Proofs.CommandLine.Pairs
