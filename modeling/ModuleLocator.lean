import ModuleLocator.CallDepth
import ModuleLocator.Cli
import ModuleLocator.Cli.Footprint
import ModuleLocator.Cli.Session
import ModuleLocator.CommandLine
import ModuleLocator.CommandLine.Parse
import ModuleLocator.CommandLine.Suggest
import ModuleLocator.Console
import ModuleLocator.Context
import ModuleLocator.Decimal.Shortest
import ModuleLocator.Descriptor
import ModuleLocator.Descriptor.Issue
import ModuleLocator.Emoji
import ModuleLocator.FileTree
import ModuleLocator.Finder
import ModuleLocator.Glob
import ModuleLocator.Instant
import ModuleLocator.Journal
import ModuleLocator.JsonText
import ModuleLocator.JsonText.Read
import ModuleLocator.Layers
import ModuleLocator.LoadError
import ModuleLocator.Log
import ModuleLocator.Main
import ModuleLocator.Markup
import ModuleLocator.Markup.Literal
import ModuleLocator.Markup.Style
import ModuleLocator.ModuleName
import ModuleLocator.ModuleName.Layout
import ModuleLocator.OsError
import ModuleLocator.PathFilter
import ModuleLocator.PosixPath
import ModuleLocator.Report
import ModuleLocator.Roots
import ModuleLocator.Settings
import ModuleLocator.Text.Alnum
import ModuleLocator.Text.Surrogate
import ModuleLocator.Text.Case
import ModuleLocator.Text.CellWidth
import ModuleLocator.Text.Digits
import ModuleLocator.Text.Lines
import ModuleLocator.Text.Number
import ModuleLocator.Text.Printable
import ModuleLocator.Text.Quoted
import ModuleLocator.Text.RangeTable
import ModuleLocator.Text.Stream
import ModuleLocator.Text.Utf8
import ModuleLocator.Value
import ModuleLocator.Value.SetOrder
import ModuleLocator.World
import ModuleLocator.Yaml.Event
import ModuleLocator.Yaml.Load
import ModuleLocator.Yaml.Node
import ModuleLocator.Yaml.Stamp
import ModuleLocator.Yaml.Tag
import ModuleLocator.Yaml.Token
import ModuleLocator.Yaml.Token.Cursor
import ModuleLocator.Yaml.Token.Scan
import ModuleLocator.Proofs.Gate
import ModuleLocator.Proofs.Search
import ModuleLocator.Proofs.Reading
import ModuleLocator.Proofs.Confinement
import ModuleLocator.Proofs.Failures
import ModuleLocator.Proofs.Spelling
import ModuleLocator.Proofs.Layering
import ModuleLocator.Proofs.Isolation
import ModuleLocator.Proofs.Utf8
import ModuleLocator.Proofs.JsonRoundTrip
import ModuleLocator.Proofs.Appending
import ModuleLocator.Proofs.JournalLines
import ModuleLocator.Proofs.NameGrammar
import ModuleLocator.Proofs.LegacyLayout
import ModuleLocator.Proofs.GlobStar
import ModuleLocator.Proofs.PatternFilter
import ModuleLocator.Proofs.ScalarText
import ModuleLocator.Proofs.PathText
import ModuleLocator.Proofs.DescriptorFields
import ModuleLocator.Proofs.SpecRoundTrip
import ModuleLocator.Proofs.SettingsSources
import ModuleLocator.Proofs.RootRouting
import ModuleLocator.Proofs.DecodedLines
import ModuleLocator.Proofs.LogListing
import ModuleLocator.Proofs.RootCopying
