import AwaitCalls.Cli.Directory
import AwaitCalls.Fixture
import AwaitCalls.Main
import AwaitCalls.Proofs.Positions
import AwaitCalls.Proofs.Scanning
import AwaitCalls.Proofs.Awaits
import AwaitCalls.Proofs.Insertions
import AwaitCalls.Proofs.Spelling
import AwaitCalls.Proofs.DottedPaths
import AwaitCalls.Proofs.FirstMentions
import AwaitCalls.Proofs.SpelledCalls
import AwaitCalls.Proofs.Stages
import AwaitCalls.Proofs.Walk
import AwaitCalls.Proofs.Print.Plain
import AwaitCalls.Proofs.Print.Rules
import AwaitCalls.Proofs.Rerun
import AwaitCalls.Proofs.Parentheses
import AwaitCalls.Proofs.Outcome
import AwaitCalls.Proofs.Report
import AwaitCalls.Proofs.Runs
import AwaitCalls.Proofs.Reading.Tokens
import AwaitCalls.Proofs.Reading.Steps
import AwaitCalls.Proofs.Reading.Expressions
import AwaitCalls.Proofs.Reading.Items
import AwaitCalls.Proofs.Reading.Openings
import AwaitCalls.Proofs.Print.Openings
import AwaitCalls.Proofs.ReadBack.Cores
import AwaitCalls.Proofs.ReadBack.Openings
import AwaitCalls.Proofs.ReadBack.AwaitedOpenings
import AwaitCalls.Proofs.ReadBack
import AwaitCalls.Proofs.DoubleAwaits
import AwaitCalls.Proofs.NamedCallees
import AwaitCalls.Proofs.ValueArguments
import AwaitCalls.Proofs.WhiteSpace
import AwaitCalls.Proofs.FixtureHeaders
import AwaitCalls.Proofs.Cli.Configuration
import AwaitCalls.Proofs.Cli.Refinement
import AwaitCalls.Proofs.Cli.Failures
import AwaitCalls.Proofs.Cli.Agreement
