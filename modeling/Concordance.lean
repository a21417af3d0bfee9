import Concordance.Json.Reader
import Concordance.Query.Lines
import Concordance.Report.Answer
import Concordance.Report.Table
import Concordance.Telemetry.Block
import Concordance.Telemetry.Job
import Concordance.Telemetry.Operation
import Concordance.CommandLine.Arguments
import Concordance.CommandLine.Run
import Concordance.Proofs.PostingContent
import Concordance.Proofs.PhraseScan
import Concordance.Proofs.DirectScan
import Concordance.Proofs.TextCuts
import Concordance.Proofs.WordParser
import Concordance.Proofs.FileWriting
import Concordance.Proofs.Utf8Reading
import Concordance.Proofs.DecimalReading
import Concordance.Proofs.LineCuts
import Concordance.Proofs.EntryForm
import Concordance.Proofs.IndexReading
import Concordance.Proofs.CodePointOrder
import Concordance.Proofs.SamePostings
import Concordance.Proofs.FileRoundTrip
import Concordance.Proofs.FileNormalisation
import Concordance.Proofs.DocumentLocality
import Concordance.Proofs.TreeShape
import Concordance.Proofs.WordRecovery
import Concordance.Proofs.CanonicalRanking
import Concordance.Proofs.LengthProduct
import Concordance.Proofs.SmallLetters
import Concordance.Proofs.SearchAnswers
import Concordance.Proofs.WordCase
import Concordance.Proofs.FileBuilding
import Concordance.Proofs.OccurrenceOrder
import Concordance.Proofs.LeftBiasedReading
import Concordance.Proofs.IndexInvariant
import Concordance.Proofs.SearchAccounting
import Concordance.Proofs.WordCounts
import Concordance.Proofs.VectorContent
import Concordance.Proofs.PhraseOrigin
import Concordance.Proofs.CommandSteps
import Concordance.Proofs.CommandEndings
import Concordance.Proofs.RunEndings
import Concordance.Proofs.TokenPlaces
import Concordance.Proofs.PhraseMeaning
import Concordance.Proofs.EntryGrammar
import Concordance.Proofs.OuterBlanks
import Concordance.Proofs.BuildAccounting
import Concordance.Proofs.TableLayout
import Concordance.Proofs.QueryReading
import Concordance.Proofs.HexReading
import Concordance.Proofs.SpanContext
import Concordance.Proofs.FailureMarks
import Concordance.Proofs.JsonSpelling
import Concordance.Proofs.RecordLines
