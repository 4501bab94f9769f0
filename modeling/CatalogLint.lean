import CatalogLint.Run
import CatalogLint.Report.Json
import CatalogLint.Toml.Printer
import CatalogLint.Proofs.List
import CatalogLint.Proofs.Yield
import CatalogLint.Proofs.CrossReference.Findings
import CatalogLint.Proofs.Reason
import CatalogLint.Proofs.Run.FileOrder
import CatalogLint.Proofs.Config.Options
import CatalogLint.Proofs.Run.Isolation
import CatalogLint.Proofs.Run.CommentReports
import CatalogLint.Proofs.Run.Comparison
import CatalogLint.Proofs.Source.Answer
import CatalogLint.Proofs.Run.ReaderFailures
import CatalogLint.Proofs.Config.Document
import CatalogLint.Proofs.Run.Detection
import CatalogLint.Proofs.Config.Sanitised
import CatalogLint.Proofs.Run.Noninterference
import CatalogLint.Proofs.CrossReference.Growth
import CatalogLint.Proofs.Run.Warnings
import CatalogLint.Proofs.Text.ByteOrder
import CatalogLint.Proofs.Text.LetterCase
import CatalogLint.Proofs.Accessor.Convention
import CatalogLint.Proofs.Accessor.Style
import CatalogLint.Proofs.Number.Exact
import CatalogLint.Proofs.Comment.Parts
import CatalogLint.Proofs.Comment.Verdict
import CatalogLint.Proofs.Comment.Profiles
import CatalogLint.Proofs.Json.Grammar
import CatalogLint.Proofs.Json.Reader
import CatalogLint.Proofs.Json.Soundness
import CatalogLint.Proofs.Json.Deletion
import CatalogLint.Proofs.Json.Printer
import CatalogLint.Proofs.Json.Record
import CatalogLint.Proofs.Report.Presentation
import CatalogLint.Proofs.Number.Rounding
import CatalogLint.Proofs.Json.Range
import CatalogLint.Proofs.Comment.Limit
import CatalogLint.Proofs.Placeholder.Grammar
import CatalogLint.Proofs.Placeholder.Decomposition
import CatalogLint.Proofs.Placeholder.Concatenation
import CatalogLint.Proofs.Path.Spelling
import CatalogLint.Proofs.Violation.Order
import CatalogLint.Proofs.Report.Summary
import CatalogLint.Proofs.Text.Trim
import CatalogLint.Proofs.Config.Severities
import CatalogLint.Proofs.Run.Kinds
