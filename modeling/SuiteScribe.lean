import SuiteScribe.Main
import SuiteScribe.Proofs.Answers.Typed
import SuiteScribe.Proofs.Command.Effects
import SuiteScribe.Proofs.Command.Replaying
import SuiteScribe.Proofs.Command.Writing
import SuiteScribe.Proofs.Interview.Collector
import SuiteScribe.Proofs.Interview.Combined
import SuiteScribe.Proofs.Script.Address
import SuiteScribe.Proofs.Script.Legible
import SuiteScribe.Proofs.Script.Literal
import SuiteScribe.Proofs.Script.PlacedLines
import SuiteScribe.Proofs.Script.Placement
import SuiteScribe.Proofs.SuiteFile.PlainText
