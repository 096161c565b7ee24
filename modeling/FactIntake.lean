import FactIntake.Command.Lazy
import FactIntake.Console.Setup
import FactIntake.Main
import FactIntake.Session
import FactIntake.Proofs.Boundary
import FactIntake.Proofs.EntryPoints
import FactIntake.Proofs.Lookup
import FactIntake.Proofs.Reporting
import FactIntake.Proofs.CommandLine
import FactIntake.Proofs.SentinelTokens
import FactIntake.Proofs.SentinelPlaces
import FactIntake.Proofs.DiskGrowth
import FactIntake.Proofs.OutputFile
import FactIntake.Proofs.Rounding
import FactIntake.Proofs.ShortestDecimal
import FactIntake.Proofs.NumberText
import FactIntake.Proofs.TextEscapes
import FactIntake.Proofs.DocumentText
import FactIntake.Proofs.ReadDocuments
import FactIntake.Proofs.Utf8Text
import FactIntake.Proofs.JsonOutput
import FactIntake.Proofs.Requests
import FactIntake.Proofs.InputIsolation
import FactIntake.Proofs.SameBytes
import FactIntake.Proofs.ReferenceFaults
import FactIntake.Proofs.CallDiscipline
import FactIntake.Proofs.Utf8Sources
import FactIntake.Proofs.RepeatedReading
import FactIntake.Proofs.LogFormats
import FactIntake.Proofs.HiddenDetails
import FactIntake.Proofs.DiskAlone
import FactIntake.Proofs.OptionsAndVariables
import FactIntake.Proofs.Switches
import FactIntake.Proofs.ModelValues
import FactIntake.Proofs.StoredModels
import FactIntake.Proofs.EmojiCodes
import FactIntake.Proofs.MarkupText
import FactIntake.Proofs.TabStops
import FactIntake.Proofs.SilentLoaders
import FactIntake.Proofs.SignedLines
import FactIntake.Proofs.SuccessLines
import FactIntake.Proofs.SuccessReports
import FactIntake.Proofs.TokenPartition
import FactIntake.Proofs.BlankEnds
import FactIntake.Proofs.NestedFailures
import FactIntake.Proofs.ReferenceSpellings
import FactIntake.Proofs.EscapedText
import FactIntake.Proofs.ErrorLines
import FactIntake.Proofs.NormalSettings
import FactIntake.Proofs.EmptyLabels
import FactIntake.Proofs.SentinelDetection
import FactIntake.Proofs.OutcomeEvents
import FactIntake.Proofs.RepeatedResolving
