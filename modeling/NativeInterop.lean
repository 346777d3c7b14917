import NativeInterop.Binding.Declaration
import NativeInterop.Binding.SourceUnit
import NativeInterop.CommandLine.Argument
import NativeInterop.CommandLine.Invocation
import NativeInterop.CommandLine.Run
import NativeInterop.Decimal.Shortest
import NativeInterop.Error
import NativeInterop.Export.Listing
import NativeInterop.FileSystem.Access
import NativeInterop.Generation.Generate
import NativeInterop.Identifier.Canonical
import NativeInterop.Log.Filter
import NativeInterop.Log.Logged
import NativeInterop.Main
import NativeInterop.Manifest.Resolve
import NativeInterop.Manifest.Schema
import NativeInterop.Path
import NativeInterop.Pe.Image
import NativeInterop.Pe.Listing
import NativeInterop.Proofs.Binding.DeclarationLines
import NativeInterop.Proofs.Binding.Layout
import NativeInterop.Proofs.Binding.LineTerminators
import NativeInterop.Proofs.Binding.MemberName
import NativeInterop.Proofs.Binding.OutputKey
import NativeInterop.Proofs.Binding.Prototype
import NativeInterop.Proofs.Binding.StringLiteral
import NativeInterop.Proofs.Binding.UnsafeModifier
import NativeInterop.Proofs.CommandLine.Decode
import NativeInterop.Proofs.CommandLine.Exports
import NativeInterop.Proofs.CommandLine.Generate
import NativeInterop.Proofs.CommandLine.LevelOption
import NativeInterop.Proofs.CommandLine.Logging
import NativeInterop.Proofs.CommandLine.Messages
import NativeInterop.Proofs.CommandLine.Moves
import NativeInterop.Proofs.CommandLine.Running
import NativeInterop.Proofs.Export.Decoding
import NativeInterop.Proofs.Export.Grammar
import NativeInterop.Proofs.Export.Listing
import NativeInterop.Proofs.Export.Matching
import NativeInterop.Proofs.Export.TrailingText
import NativeInterop.Proofs.Export.TypeLoop
import NativeInterop.Proofs.FileSystem.Children
import NativeInterop.Proofs.FileSystem.Naming
import NativeInterop.Proofs.FileSystem.Writing
import NativeInterop.Proofs.Generation.Confinement
import NativeInterop.Proofs.Generation.Effect
import NativeInterop.Proofs.Generation.Grouping
import NativeInterop.Proofs.Generation.Keys
import NativeInterop.Proofs.Generation.Rendering
import NativeInterop.Proofs.Generation.Sources
import NativeInterop.Proofs.Identifier.Casing
import NativeInterop.Proofs.Identifier.NormalForm
import NativeInterop.Proofs.Identifier.Passes
import NativeInterop.Proofs.Identifier.Places
import NativeInterop.Proofs.Identifier.Respelling
import NativeInterop.Proofs.Identifier.Settling
import NativeInterop.Proofs.Log.Filter
import NativeInterop.Proofs.Manifest.Loading
import NativeInterop.Proofs.Manifest.Resolution
import NativeInterop.Proofs.Pe.Listing
import NativeInterop.Proofs.Pe.ListingLine
import NativeInterop.Proofs.Signature.Calls
import NativeInterop.Proofs.Signature.Lexing
import NativeInterop.Proofs.Signature.LongestCode
import NativeInterop.Proofs.Signature.Reading
import NativeInterop.Proofs.Signature.Unrecognized
import NativeInterop.Proofs.Text.Backtracking
import NativeInterop.Proofs.Text.ByteOffset
import NativeInterop.Proofs.Text.Digits
import NativeInterop.Proofs.Text.LineEnds
import NativeInterop.Proofs.Text.Lines
import NativeInterop.Proofs.Text.Occurrences
import NativeInterop.Proofs.Text.Scan
import NativeInterop.Proofs.Text.Segments
import NativeInterop.Proofs.Text.Trimming
import NativeInterop.Proofs.Text.Utf8
import NativeInterop.Shell.Alias
import NativeInterop.Shell.Arithmetic
import NativeInterop.Shell.Builtin
import NativeInterop.Shell.Bytes
import NativeInterop.Shell.CommandReader
import NativeInterop.Shell.Condition
import NativeInterop.Shell.Digest
import NativeInterop.Shell.Escape
import NativeInterop.Shell.Evaluate
import NativeInterop.Shell.Expansion
import NativeInterop.Shell.Fields
import NativeInterop.Shell.FileMode
import NativeInterop.Shell.FileNames
import NativeInterop.Shell.Jobs
import NativeInterop.Shell.Lookup
import NativeInterop.Shell.Machine
import NativeInterop.Shell.Numeral
import NativeInterop.Shell.Options
import NativeInterop.Shell.Pattern
import NativeInterop.Shell.Printf
import NativeInterop.Shell.Redirect
import NativeInterop.Shell.Regex
import NativeInterop.Shell.Signal
import NativeInterop.Shell.Source
import NativeInterop.Shell.Start
import NativeInterop.Shell.Syntax
import NativeInterop.Shell.System
import NativeInterop.Shell.Utility.Checksum
import NativeInterop.Shell.Utility.Concatenate
import NativeInterop.Shell.Utility.Difference
import NativeInterop.Shell.Utility.Dump
import NativeInterop.Shell.Utility.Files
import NativeInterop.Shell.Utility.Grep
import NativeInterop.Shell.Utility.Identity
import NativeInterop.Shell.Utility.Lines
import NativeInterop.Shell.Utility.Message
import NativeInterop.Shell.Utility.Names
import NativeInterop.Shell.Utility.Numbers
import NativeInterop.Shell.Utility.Refusal
import NativeInterop.Shell.Utility.Search
import NativeInterop.Shell.Utility.Sed
import NativeInterop.Shell.Utility.SedScript
import NativeInterop.Shell.Utility.Table
import NativeInterop.Shell.Utility.Translate
import NativeInterop.Shell.Variables
import NativeInterop.Shell.WordReader
import NativeInterop.Signature.Cursor
import NativeInterop.Signature.NativeType
import NativeInterop.Source.ExportSource
import NativeInterop.Source.Kind
import NativeInterop.Text.Basic
import NativeInterop.Text.Quoted
import NativeInterop.Text.Utf8
import NativeInterop.Toml.Datetime
import NativeInterop.Toml.Document
import NativeInterop.Toml.Number
import NativeInterop.Toml.Quotation
import NativeInterop.Toml.Value
