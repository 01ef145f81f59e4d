import ReleaseAdvisor.Candidate
import ReleaseAdvisor.Main
import ReleaseAdvisor.Proofs.Mixture
import ReleaseAdvisor.Proofs.Failures
import ReleaseAdvisor.Proofs.Squash.Nested
import ReleaseAdvisor.Proofs.Squash.Written
import ReleaseAdvisor.Proofs.Decision
import ReleaseAdvisor.Proofs.Rules
import ReleaseAdvisor.Proofs.Captures
import ReleaseAdvisor.Proofs.Entries
import ReleaseAdvisor.Proofs.Initial
import ReleaseAdvisor.Proofs.Parts
import ReleaseAdvisor.Proofs.Sections
import ReleaseAdvisor.Proofs.Matching
import ReleaseAdvisor.Proofs.Listing
import ReleaseAdvisor.Proofs.CommandLine.Override
import ReleaseAdvisor.Proofs.Header
import ReleaseAdvisor.Proofs.Json.Layout
import ReleaseAdvisor.Proofs.LineEnds
import ReleaseAdvisor.Proofs.RevertMessage
import ReleaseAdvisor.Proofs.RuleSource
import ReleaseAdvisor.Proofs.Tails
import ReleaseAdvisor.Proofs.HeaderFields
import ReleaseAdvisor.Proofs.Breaking
import ReleaseAdvisor.Proofs.BlankLines
import ReleaseAdvisor.Proofs.Referenced
import ReleaseAdvisor.Proofs.Reserved
import ReleaseAdvisor.Proofs.FieldNames
import ReleaseAdvisor.Proofs.RuleFaults
import ReleaseAdvisor.Proofs.NoteSource
import ReleaseAdvisor.Proofs.Candidates
import ReleaseAdvisor.Proofs.Globs
import ReleaseAdvisor.Proofs.Merging
import ReleaseAdvisor.Proofs.Settings
import ReleaseAdvisor.Proofs.Spelling
