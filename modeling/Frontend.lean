import Frontend.Calendar
import Frontend.Compilation.Basic
import Frontend.Compilation.Cache
import Frontend.Compilation.Classification
import Frontend.Compilation.Delivery
import Frontend.Compilation.Dump
import Frontend.Dictionary
import Frontend.Digest
import Frontend.FileTree.Basic
import Frontend.FileTree.Edit
import Frontend.FileTree.Name
import Frontend.FileTree.Walk
import Frontend.Import.Descriptor
import Frontend.Import.Name
import Frontend.Import.Package
import Frontend.Import.Project
import Frontend.Import.Recency
import Frontend.Import.Resolver
import Frontend.Import.Search
import Frontend.Import.Use
import Frontend.Note.Kind
import Frontend.Note.Policy
import Frontend.Note.Verbosity
import Frontend.Options
import Frontend.Path.Basic
import Frontend.Path.Join
import Frontend.Path.Name
import Frontend.Path.Normal
import Frontend.Report.Basic
import Frontend.Report.Fault
import Frontend.Report.Ledger
import Frontend.Report.Outcome
import Frontend.Selection.Basic
import Frontend.Selection.Enumerated
import Frontend.Session.Admission
import Frontend.Session.Answer
import Frontend.Session.Basic
import Frontend.Session.Perform
import Frontend.Session.Request
import Frontend.Session.Run
import Frontend.Session.Step
import Frontend.Source.File
import Frontend.Source.Location
import Frontend.Source.Table
import Frontend.Source.Use
import Frontend.Text.Integer
import Frontend.Text.Json
import Frontend.Text.Lines
import Frontend.Text.Lowercase
import Frontend.Text.Lowercase.Table
import Frontend.Text.Utf8
import Frontend.Timestamp
import Frontend.Proofs.Calendar.DayCount
import Frontend.Proofs.Calendar.Reading
import Frontend.Proofs.Compilation.Dylib
import Frontend.Proofs.Compilation.Import
import Frontend.Proofs.Compilation.Loudness
import Frontend.Proofs.Compilation.Severity
import Frontend.Proofs.Compilation.Spelling
import Frontend.Proofs.FileTree.Canonical
import Frontend.Proofs.FileTree.Linkless
import Frontend.Proofs.FileTree.Listing
import Frontend.Proofs.FileTree.Name
import Frontend.Proofs.FileTree.Walk
import Frontend.Proofs.Import.Candidate
import Frontend.Proofs.Import.Descriptor
import Frontend.Proofs.Import.ImportPath
import Frontend.Proofs.Import.LazyCandidates
import Frontend.Proofs.Import.LazyOrder
import Frontend.Proofs.Import.Library
import Frontend.Proofs.Import.ListingOrder
import Frontend.Proofs.Import.PackageMemory
import Frontend.Proofs.Import.PackageWalk
import Frontend.Proofs.Import.Promotion
import Frontend.Proofs.Import.StandardDirectory
import Frontend.Proofs.Import.Unambiguous
import Frontend.Proofs.Note.CommandLine
import Frontend.Proofs.Note.Comparison
import Frontend.Proofs.Note.Default
import Frontend.Proofs.Note.Escalation
import Frontend.Proofs.Note.Mirror
import Frontend.Proofs.Note.Preset
import Frontend.Proofs.Note.Separation
import Frontend.Proofs.Note.Standing
import Frontend.Proofs.Note.Switching
import Frontend.Proofs.Path.Above
import Frontend.Proofs.Path.Extension
import Frontend.Proofs.Path.NormalForm
import Frontend.Proofs.Path.NormalJoin
import Frontend.Proofs.Path.Recased
import Frontend.Proofs.Path.Relative
import Frontend.Proofs.Path.Steps
import Frontend.Proofs.Project.Discovery
import Frontend.Proofs.Project.Offer
import Frontend.Proofs.Project.Rank
import Frontend.Proofs.Selection.FiniteSet
import Frontend.Proofs.Session.Accounting
import Frontend.Proofs.Session.Books
import Frontend.Proofs.Session.Course
import Frontend.Proofs.Session.Errors
import Frontend.Proofs.Session.Identity
import Frontend.Proofs.Session.Nesting
import Frontend.Proofs.Session.Once
import Frontend.Proofs.Session.Outcome
import Frontend.Proofs.Session.Trail
import Frontend.Proofs.Source.Freshness
import Frontend.Proofs.Source.Key
import Frontend.Proofs.Source.Numbering
import Frontend.Proofs.Text.Integer
import Frontend.Proofs.Text.Utf8
import Frontend.Proofs.Timestamp
