import LintMend.Main
import LintMend.Proofs.Address.Loopback
import LintMend.Proofs.CommandLine.ExitCode
import LintMend.Proofs.CommandLine.Logging
import LintMend.Proofs.CommandLine.Requests
import LintMend.Proofs.Configuration.Substitution
import LintMend.Proofs.Diagnostic.Concatenation
import LintMend.Proofs.Diagnostic.Extraction
import LintMend.Proofs.Diagnostic.FirstPath
import LintMend.Proofs.Diagnostic.Grammar
import LintMend.Proofs.Diagnostic.Groups
import LintMend.Proofs.Diagnostic.Report
import LintMend.Proofs.Diagnostic.RoundTrip
import LintMend.Proofs.Diagnostic.SingleLine
import LintMend.Proofs.FileTree.Apart
import LintMend.Proofs.FileTree.Following
import LintMend.Proofs.FileTree.Growth
import LintMend.Proofs.FileTree.Replacement
import LintMend.Proofs.FileTree.Temporary
import LintMend.Proofs.Fixing.Account
import LintMend.Proofs.Fixing.Attempt
import LintMend.Proofs.Fixing.Containment
import LintMend.Proofs.Fixing.Content
import LintMend.Proofs.Fixing.Counts
import LintMend.Proofs.Fixing.DryRun
import LintMend.Proofs.Fixing.Independence
import LintMend.Proofs.Fixing.Locality
import LintMend.Proofs.Fixing.Restart
import LintMend.Proofs.Log.Preview
import LintMend.Proofs.Log.Redacted
import LintMend.Proofs.Prompt
import LintMend.Proofs.Redaction.Removal
import LintMend.Proofs.Reply.Acceptance
import LintMend.Proofs.Reply.Codeless
import LintMend.Proofs.Reply.Fenced
import LintMend.Proofs.Reply.Unwrapping
import LintMend.Proofs.Reply.Usable
import LintMend.Proofs.Service.Contract
import LintMend.Proofs.Service.Questions
import LintMend.Proofs.Service.Readiness
import LintMend.Proofs.SourceFiles.Agreement
import LintMend.Proofs.SourceFiles.Atomicity
import LintMend.Proofs.SourceFiles.Clamping
import LintMend.Proofs.SourceFiles.LineNumbers
import LintMend.Proofs.SourceFiles.Reading
import LintMend.Proofs.SourceFiles.Separation
import LintMend.Proofs.SourceFiles.Window
import LintMend.Proofs.SourceFiles.Writing
import LintMend.Proofs.Utf8.RoundTrip
