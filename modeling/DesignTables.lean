import DesignTables.Catalog.Basic
import DesignTables.CommandLine.Arguments
import DesignTables.CommandLine.Build
import DesignTables.CommandLine.Grammar
import DesignTables.CommandLine.Printed
import DesignTables.CommandLine.Program
import DesignTables.CommandLine.Reading
import DesignTables.CommandLine.Session
import DesignTables.Compile.Context
import DesignTables.Compile.Options
import DesignTables.Compile.Run
import DesignTables.Compile.State
import DesignTables.Config.Options
import DesignTables.Config.TomlReader
import DesignTables.Config.TomlValue
import DesignTables.Diagnostic.Basic
import DesignTables.Diagnostic.Code
import DesignTables.Diagnostic.Problem
import DesignTables.Grid.Basic
import DesignTables.Grid.Cell
import DesignTables.Header.Compile
import DesignTables.Header.Directive
import DesignTables.Index.KeyTable
import DesignTables.Index.Overlay
import DesignTables.Index.References
import DesignTables.Index.Sizes
import DesignTables.Ingest.CellReading
import DesignTables.Ingest.Rows
import DesignTables.Ingest.Sheet
import DesignTables.Log.Directive
import DesignTables.Log.Entry
import DesignTables.Log.Filter
import DesignTables.Log.Layout
import DesignTables.Log.Level
import DesignTables.Log.Run
import DesignTables.Main
import DesignTables.Merge.Shards
import DesignTables.Merge.Table
import DesignTables.Merge.Unify
import DesignTables.Number.Double
import DesignTables.Number.Integer
import DesignTables.Number.Notation
import DesignTables.Number.Reading
import DesignTables.Number.Shortest
import DesignTables.Output.EnumCode
import DesignTables.Output.FileChange
import DesignTables.Output.FileLookup
import DesignTables.Output.FileTree
import DesignTables.Output.Files
import DesignTables.Output.Records
import DesignTables.Output.SchemaCode
import DesignTables.Output.TreeChange
import DesignTables.Pattern.Basic
import DesignTables.Pattern.CharSet
import DesignTables.Pattern.Reader
import DesignTables.Pool.Basic
import DesignTables.Pool.Schedule
import DesignTables.Proofs.Catalog.Closure
import DesignTables.Proofs.Catalog.Companions
import DesignTables.Proofs.Catalog.Entries
import DesignTables.Proofs.Catalog.Library
import DesignTables.Proofs.Compile.Absorption
import DesignTables.Proofs.Compile.Completeness
import DesignTables.Proofs.Compile.Contents
import DesignTables.Proofs.Compile.Course
import DesignTables.Proofs.Compile.EnumValues
import DesignTables.Proofs.Compile.Faithfulness
import DesignTables.Proofs.Compile.FirstTables
import DesignTables.Proofs.Compile.Integrity
import DesignTables.Proofs.Compile.Keys
import DesignTables.Proofs.Compile.Loaded
import DesignTables.Proofs.Compile.Merging
import DesignTables.Proofs.Compile.Outcome
import DesignTables.Proofs.Compile.Overwriting
import DesignTables.Proofs.Compile.Parts
import DesignTables.Proofs.Compile.Rounds
import DesignTables.Proofs.Compile.Selection
import DesignTables.Proofs.Compile.ShardIndex
import DesignTables.Proofs.Compile.Strings
import DesignTables.Proofs.Compile.Substitution
import DesignTables.Proofs.Compile.TableNames
import DesignTables.Proofs.Compile.Targets
import DesignTables.Proofs.Compile.UnknownTables
import DesignTables.Proofs.Compile.WholeGroups
import DesignTables.Proofs.Compile.ZeroReferences
import DesignTables.Proofs.Grid.Addresses
import DesignTables.Proofs.Header.Affixes
import DesignTables.Proofs.Header.Columns
import DesignTables.Proofs.Header.Directives
import DesignTables.Proofs.Header.Links
import DesignTables.Proofs.Header.Needs
import DesignTables.Proofs.Header.Roles
import DesignTables.Proofs.Header.Spelling
import DesignTables.Proofs.Header.Steps
import DesignTables.Proofs.Header.WellFormed
import DesignTables.Proofs.Index.Recordings
import DesignTables.Proofs.Index.Unions
import DesignTables.Proofs.Indexing.Access
import DesignTables.Proofs.Indexing.Catalog
import DesignTables.Proofs.Indexing.Checks
import DesignTables.Proofs.Indexing.Course
import DesignTables.Proofs.Indexing.Files
import DesignTables.Proofs.Indexing.Header
import DesignTables.Proofs.Indexing.Merging
import DesignTables.Proofs.Indexing.Registries
import DesignTables.Proofs.Indexing.Rows
import DesignTables.Proofs.Indexing.State
import DesignTables.Proofs.Ingest.Booleans
import DesignTables.Proofs.Ingest.Integers
import DesignTables.Proofs.Ingest.Keys
import DesignTables.Proofs.Ingest.Numbers
import DesignTables.Proofs.Ingest.Origins
import DesignTables.Proofs.Ingest.Readings
import DesignTables.Proofs.Ingest.Rows
import DesignTables.Proofs.Ingest.Selection
import DesignTables.Proofs.Ingest.Sheets
import DesignTables.Proofs.Ingest.Sizes
import DesignTables.Proofs.Json.Grammar
import DesignTables.Proofs.Json.Numbers
import DesignTables.Proofs.Json.Verbatim
import DesignTables.Proofs.Lists
import DesignTables.Proofs.Merge.Agreement
import DesignTables.Proofs.Merge.Columns
import DesignTables.Proofs.Merge.Division
import DesignTables.Proofs.Merge.Keys
import DesignTables.Proofs.Merge.Order
import DesignTables.Proofs.Merge.Packing
import DesignTables.Proofs.Merge.Placement
import DesignTables.Proofs.Merge.Provenance
import DesignTables.Proofs.Merge.References
import DesignTables.Proofs.Merge.Shapes
import DesignTables.Proofs.Merge.Sizes
import DesignTables.Proofs.Number.Digits
import DesignTables.Proofs.Number.Rounding
import DesignTables.Proofs.Number.Shortest
import DesignTables.Proofs.Output.Companion
import DesignTables.Proofs.Output.Documents
import DesignTables.Proofs.Output.Emission
import DesignTables.Proofs.Output.Endings
import DesignTables.Proofs.Output.Faithful
import DesignTables.Proofs.Output.Lengths
import DesignTables.Proofs.Output.Paths
import DesignTables.Proofs.Output.RecordClass
import DesignTables.Proofs.Output.Settled
import DesignTables.Proofs.Output.ShardRecords
import DesignTables.Proofs.Output.Tree
import DesignTables.Proofs.Output.Values
import DesignTables.Proofs.Pool.Schedules
import DesignTables.Proofs.Registry.Calls
import DesignTables.Proofs.Registry.Enums
import DesignTables.Proofs.Registry.Languages
import DesignTables.Proofs.Registry.Order
import DesignTables.Proofs.Registry.StoredStrings
import DesignTables.Proofs.Registry.Strings
import DesignTables.Proofs.Text.Brackets
import DesignTables.Proofs.Text.Lower
import DesignTables.Proofs.Text.Paths
import DesignTables.Proofs.Text.Pieces
import DesignTables.Proofs.Text.WhiteSpace
import DesignTables.Proofs.Text.Wrapping
import DesignTables.Proofs.Validation.Agreement
import DesignTables.Proofs.Validation.Changes
import DesignTables.Proofs.Validation.Concerns
import DesignTables.Proofs.Validation.Counts
import DesignTables.Proofs.Validation.Coverage
import DesignTables.Proofs.Validation.EnumCodes
import DesignTables.Proofs.Validation.Ownership
import DesignTables.Proofs.Validation.Problems
import DesignTables.Proofs.Validation.Uniqueness
import DesignTables.Proofs.Validation.Writing
import DesignTables.Registry.Enums
import DesignTables.Registry.Filling
import DesignTables.Registry.Localization
import DesignTables.Report.File
import DesignTables.Report.Format
import DesignTables.Report.Row
import DesignTables.Report.Timestamp
import DesignTables.Table.Column
import DesignTables.Table.DataType
import DesignTables.Table.Kind
import DesignTables.Table.Schema
import DesignTables.Text.Case
import DesignTables.Text.CaseTables
import DesignTables.Text.Letters
import DesignTables.Text.Path
import DesignTables.Text.Quoted
import DesignTables.Text.Split
import DesignTables.Validation.Checks
import DesignTables.Validation.Table
import DesignTables.Workbook.CellText
import DesignTables.Workbook.File
import DesignTables.Workbook.Folder
import DesignTables.Workbook.PlainText
