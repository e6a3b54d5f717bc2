import BenchFigures.Bench
import BenchFigures.Chart.Label
import BenchFigures.Main
import BenchFigures.Proofs.Actions
import BenchFigures.Proofs.Paths
import BenchFigures.Proofs.Traversals
import BenchFigures.Proofs.Binary64
import BenchFigures.Proofs.Charts
import BenchFigures.Proofs.Discovery
import BenchFigures.Proofs.ElapsedRange
import BenchFigures.Proofs.Outputs
import BenchFigures.Proofs.Refusal
import BenchFigures.Proofs.Presentations
import BenchFigures.Proofs.StagedRun
import BenchFigures.Proofs.SummaryTables
import BenchFigures.Proofs.SeparateEncodings
import BenchFigures.Proofs.SameSights
import BenchFigures.Proofs.RunningAgain
import BenchFigures.Proofs.SharedNumbers
import BenchFigures.Proofs.NotANumber
import BenchFigures.Proofs.LoadedLevels
import BenchFigures.Proofs.LateFailures
import BenchFigures.Proofs.BarsInRange
import BenchFigures.Proofs.JsonTokens
import BenchFigures.Proofs.JsonDocuments
import BenchFigures.Proofs.JsonRecords
import BenchFigures.Proofs.ConfigurationFiles
import BenchFigures.Proofs.AggregateLives
import BenchFigures.Proofs.RowFaults
import BenchFigures.Proofs.RecordLines
import BenchFigures.Proofs.JoinedTables
import BenchFigures.Proofs.OnlyResultFile
import BenchFigures.Proofs.Gridlines
import BenchFigures.Proofs.ExactStatistics
import BenchFigures.Proofs.ExactRanges
import BenchFigures.Proofs.ExtendedValues
import BenchFigures.Proofs.Clipping
import BenchFigures.Proofs.StatisticsLaws
import BenchFigures.Proofs.ExtremeTimes
import BenchFigures.Proofs.NearestEven
import BenchFigures.Proofs.CorrectRounding
import BenchFigures.Proofs.LineNumbers
import BenchFigures.Proofs.LinesNearRange
import BenchFigures.Proofs.LabelCounts
import BenchFigures.Proofs.LabelsBeforeGrid
import BenchFigures.Proofs.RegisteredFont
