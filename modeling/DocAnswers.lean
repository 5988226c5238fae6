import DocAnswers.Build.Toolchain
import DocAnswers.CommandLine.Read
import DocAnswers.Comment.Scan
import DocAnswers.FileTree.Glob
import DocAnswers.FileTree.Listing
import DocAnswers.Html.Document
import DocAnswers.Html.Selector
import DocAnswers.Log.Filter
import DocAnswers.Lookup.Basic
import DocAnswers.Main
import DocAnswers.Program
import DocAnswers.Report.Basic
import DocAnswers.Run
import DocAnswers.Sources
import DocAnswers.Proofs.Build.Targets
import DocAnswers.Proofs.Comment.Blocks
import DocAnswers.Proofs.Lookup.Requests
import DocAnswers.Proofs.Lookup.Selection
import DocAnswers.Proofs.Lookup.Verbatim
import DocAnswers.Proofs.Report.Outline
import DocAnswers.Proofs.Report.RoundTrip
import DocAnswers.Proofs.Run.Contents
import DocAnswers.Proofs.Sources.SameFile
import DocAnswers.Proofs.Text.Words
import DocAnswers.Proofs.Lookup.CleanText
import DocAnswers.Proofs.Run.Languages
import DocAnswers.Proofs.CommandLine.Clauses
import DocAnswers.Proofs.Log.Laxer
import DocAnswers.Proofs.Run.Lookups
import DocAnswers.Proofs.Run.Logging
import DocAnswers.Proofs.Comment.Grammar
import DocAnswers.Proofs.Text.PercentEncoding
import DocAnswers.Proofs.Lookup.SearchUrl
import DocAnswers.Proofs.Text.Utf8
import DocAnswers.Proofs.Text.ByteLines
import DocAnswers.Proofs.Run.Damage
import DocAnswers.Proofs.Html.Refill
import DocAnswers.Proofs.Lookup.Tiers
import DocAnswers.Proofs.Comment.Parts
import DocAnswers.Proofs.Lookup.Failures
import DocAnswers.Proofs.Sources.Again
import DocAnswers.Proofs.Comment.LineEnds
import DocAnswers.Proofs.Build.Naming
import DocAnswers.Proofs.Build.Objects
import DocAnswers.Proofs.Build.LinkOrder
import DocAnswers.Proofs.Lookup.Preference
import DocAnswers.Proofs.Html.Around
import DocAnswers.Proofs.Html.Additions
import DocAnswers.Proofs.Lookup.Links
