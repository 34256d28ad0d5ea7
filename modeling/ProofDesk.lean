import ProofDesk.Main
import ProofDesk.Prover.ConfigForm
import ProofDesk.Rehearsal.Machine
import ProofDesk.Rehearsal.Party
import ProofDesk.Proofs.Source.Placeholder
import ProofDesk.Proofs.Clause.Span
import ProofDesk.Proofs.Clause.Splice
import ProofDesk.Proofs.Dialogue
import ProofDesk.Proofs.Prover.Turns
import ProofDesk.Proofs.Project.Tools
import ProofDesk.Proofs.Project.Verdict
import ProofDesk.Proofs.Prover.Accounting
import ProofDesk.Proofs.Prover.Conversation
import ProofDesk.Proofs.Session.Run
import ProofDesk.Proofs.Text.Search
import ProofDesk.Proofs.Prover.Generation
import ProofDesk.Proofs.Prover.Statement
import ProofDesk.Proofs.Prover.Signature
import ProofDesk.Proofs.Text.Inserted
import ProofDesk.Proofs.Session.Renaming
import ProofDesk.Proofs.Session.Transparency
import ProofDesk.Proofs.Source.Site
import ProofDesk.Proofs.Session.Declared
import ProofDesk.Proofs.Session.Desk
import ProofDesk.Proofs.Session.Affirmation
import ProofDesk.Proofs.Source.Mode
import ProofDesk.Proofs.Clause.Stage
import ProofDesk.Proofs.Clause.Origin
import ProofDesk.Proofs.Clause.Reading
import ProofDesk.Proofs.Clause.Introduction
import ProofDesk.Proofs.Clause.ReadBack
import ProofDesk.Proofs.Clause.Joined
import ProofDesk.Proofs.Source.Layout
import ProofDesk.Proofs.Session.Uses
import ProofDesk.Proofs.Session.Comments
import ProofDesk.Proofs.Clause.Ids
import ProofDesk.Proofs.Session.Reached
import ProofDesk.Proofs.Source.Places
import ProofDesk.Proofs.Source.Filling
import ProofDesk.Proofs.Clause.Coverage
import ProofDesk.Proofs.Session.Goals
import ProofDesk.Proofs.Session.Advice
import ProofDesk.Proofs.Session.Paired
import ProofDesk.Proofs.Text.Lines
import ProofDesk.Proofs.Clause.Range
import ProofDesk.Proofs.Session.Front
import ProofDesk.Proofs.Session.Outline
import ProofDesk.Proofs.Settings.Dotenv
import ProofDesk.Proofs.Rehearsal.Tree
import ProofDesk.Proofs.Rehearsal.Machine
import ProofDesk.Proofs.CommandLine.Steps
import ProofDesk.Proofs.CommandLine.Preparation
import ProofDesk.Proofs.CommandLine.Change
import ProofDesk.Proofs.Source.Hidden
import ProofDesk.Proofs.Clause.Exchange
import ProofDesk.Proofs.Clause.Hidden
import ProofDesk.Proofs.Clause.Commute
import ProofDesk.Proofs.Source.Depth
import ProofDesk.Proofs.Clause.Depths
import ProofDesk.Proofs.Diagnostic.Tagged
import ProofDesk.Proofs.Diagnostic.Listing
import ProofDesk.Proofs.Prover.Report
import ProofDesk.Proofs.Prover.FinalCode
import ProofDesk.Proofs.Prover.Repetition
import ProofDesk.Proofs.Prover.Imposed
import ProofDesk.Proofs.Prover.Submitted
import ProofDesk.Proofs.Prover.Preamble
import ProofDesk.Proofs.Clause.Blank
import ProofDesk.Proofs.Source.Lexeme
import ProofDesk.Proofs.Source.Occurrence
import ProofDesk.Proofs.Source.Literal
import ProofDesk.Proofs.Source.Unseen
