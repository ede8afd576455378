import CrossRef.Catalog.Basic
import CrossRef.Catalog.Counts
import CrossRef.Catalog.Decode
import CrossRef.Catalog.Encode
import CrossRef.Catalog.Place
import CrossRef.Catalog.Use
import CrossRef.Classification
import CrossRef.Command.Argument
import CrossRef.Command.Basic
import CrossRef.Command.Console
import CrossRef.Command.Indexing
import CrossRef.Command.Parse
import CrossRef.Command.Reading
import CrossRef.Command.Run
import CrossRef.Contents
import CrossRef.Doc.Block
import CrossRef.Doc.Choice
import CrossRef.Doc.Scan
import CrossRef.Double
import CrossRef.Error
import CrossRef.Extraction
import CrossRef.FileTree.Access
import CrossRef.FileTree.Basic
import CrossRef.FileTree.Changes
import CrossRef.FileTree.Database
import CrossRef.FileTree.Journal
import CrossRef.FileTree.Trace
import CrossRef.FileTree.Walk
import CrossRef.FileTree.Work
import CrossRef.Header
import CrossRef.Index
import CrossRef.Json.Keeping
import CrossRef.Json.Printer
import CrossRef.Json.Reader
import CrossRef.Json.Value
import CrossRef.Kind
import CrossRef.Main
import CrossRef.Needle
import CrossRef.Palette
import CrossRef.Path
import CrossRef.Progress
import CrossRef.Proofs.BlankLines
import CrossRef.Proofs.Declaring
import CrossRef.Proofs.DeclaringLines
import CrossRef.Proofs.DirectResolution
import CrossRef.Proofs.FailedSave
import CrossRef.Proofs.FileGrowth
import CrossRef.Proofs.IndexRun
import CrossRef.Proofs.LineWalk
import CrossRef.Proofs.MappedDeclarations
import CrossRef.Proofs.Merging
import CrossRef.Proofs.Numbering
import CrossRef.Proofs.NumberingRun
import CrossRef.Proofs.Outline
import CrossRef.Proofs.PlaceList
import CrossRef.Proofs.Places
import CrossRef.Proofs.Recording
import CrossRef.Proofs.SearchOrder
import CrossRef.Proofs.SearchTexts
import CrossRef.Proofs.UseMaps
import CrossRef.Proofs.UsingLines
import CrossRef.Report.Listing
import CrossRef.Report.Sorting
import CrossRef.Report.Table
import CrossRef.Report.UseRows
import CrossRef.Resolution
import CrossRef.Settings.Basic
import CrossRef.Settings.Document
import CrossRef.Settings.Files
import CrossRef.Settings.Page
import CrossRef.Store.Address
import CrossRef.Store.Connection
import CrossRef.Store.Document
import CrossRef.Store.Query
import CrossRef.Store.Statement
import CrossRef.Store.Tables
import CrossRef.Store.Write
import CrossRef.Text.Ascii
import CrossRef.Text.Blank
import CrossRef.Text.Case
import CrossRef.Text.CaseContext
import CrossRef.Text.CaseRun
import CrossRef.Text.ColumnRanges
import CrossRef.Text.Columns
import CrossRef.Text.HiddenRanges
import CrossRef.Text.Integer
import CrossRef.Text.Lines
import CrossRef.Text.LowerRuns
import CrossRef.Text.Search
import CrossRef.Text.Terminal
import CrossRef.Text.UpperRuns
import CrossRef.Text.Utf8
import CrossRef.Text.Visible
import CrossRef.Toml.Printer
import CrossRef.Toml.Reader
import CrossRef.Toml.Scalar
import CrossRef.Toml.Table
import CrossRef.Toml.Value
import CrossRef.Proofs.PackageSeqs
import CrossRef.Proofs.SavedRows
import CrossRef.Proofs.SavedCatalog
import CrossRef.Proofs.SavedRun
import CrossRef.Proofs.DiscoveryOrder
import CrossRef.Proofs.SharedUses
import CrossRef.Proofs.ShiftedLines
import CrossRef.Proofs.ShiftedRun
import CrossRef.Proofs.UnreadableFiles
import CrossRef.Proofs.ShownNames
import CrossRef.Proofs.Tallies
import CrossRef.Proofs.UsedSymbols
import CrossRef.Proofs.CountsAgree
import CrossRef.Proofs.ProgressProtocol
import CrossRef.Proofs.ViewHeads
import CrossRef.Proofs.WithoutViews
import CrossRef.Proofs.JsonScalars
import CrossRef.Proofs.JsonDocument
import CrossRef.Proofs.CatalogDocument
import CrossRef.Proofs.PathComponents
import CrossRef.Proofs.UseRowCounts
import CrossRef.Proofs.SavedUses
import CrossRef.Proofs.RowsAgree
import CrossRef.Proofs.DocSegments
import CrossRef.Proofs.DocContents
import CrossRef.Proofs.DeclaredHeaders
import CrossRef.Proofs.WrittenTexts
import CrossRef.Proofs.TomlStrings
import CrossRef.Proofs.TomlValues
import CrossRef.Proofs.TomlDocument
import CrossRef.Proofs.PartialSettings
import CrossRef.Proofs.DocPolicy
import CrossRef.Proofs.PathsBelow
import CrossRef.Proofs.WalkDepth
import CrossRef.Proofs.WalkedFiles
import CrossRef.Proofs.LastParts
import CrossRef.Proofs.ClassifiedFiles
import CrossRef.Proofs.KindPlaces
import CrossRef.Proofs.ListedPages
import CrossRef.Proofs.RoutinePages
import CrossRef.Proofs.RowsByPath
import CrossRef.Proofs.TextMentions
import CrossRef.Proofs.IndentedLines
import CrossRef.Proofs.IndentedRun
import CrossRef.Proofs.HeaderWords
import CrossRef.Proofs.BareNames
import CrossRef.Proofs.LineEndings
import CrossRef.Proofs.SingleUses
import CrossRef.Proofs.SearchShortcut
import CrossRef.Proofs.RefusedCommit
