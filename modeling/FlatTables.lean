import FlatTables.Main
import FlatTables.Proofs.FaultyRuns
import FlatTables.Proofs.FileWrites
import FlatTables.Proofs.RecordRoundTrip
import FlatTables.Proofs.SoundTables
import FlatTables.Proofs.Changes
import FlatTables.Proofs.OpenTables
import FlatTables.Proofs.LastWriter
import FlatTables.Proofs.FailedChanges
import FlatTables.Proofs.QueryEffects
import FlatTables.Proofs.NamedColumns
import FlatTables.Proofs.RectangularRuns
import FlatTables.Proofs.NumeralOrder
import FlatTables.Proofs.StableOrder
import FlatTables.Proofs.KeyOrder
import FlatTables.Proofs.SortedSheets
import FlatTables.Proofs.StageOrder
import FlatTables.Proofs.JsonGrammar
import FlatTables.Proofs.JoinedHeaders
import FlatTables.Proofs.SelectRuns
import FlatTables.Proofs.RelationalAnswers
import FlatTables.Proofs.NamedChanges
import FlatTables.Proofs.SelectedRows
import FlatTables.Proofs.RecordGrammar
import FlatTables.Proofs.NextIds
import FlatTables.Proofs.RefusedQueries
import FlatTables.Proofs.DistinctIds
import FlatTables.Proofs.InsertedRows
import FlatTables.Proofs.FirstFaults
import FlatTables.Proofs.UpdatedRows
import FlatTables.Proofs.ChangesInTurn
import FlatTables.Proofs.JsonReading
import FlatTables.Proofs.JsonRecords
import FlatTables.Proofs.DescriptorTexts
import FlatTables.Proofs.FrontEnds
import FlatTables.Proofs.RenamedColumns
import FlatTables.Proofs.JoinedRows
import FlatTables.Proofs.JoinedFilters
import FlatTables.Proofs.InsertOutcomes
import FlatTables.Proofs.JsonNumbers
import FlatTables.Proofs.JsonValues
import FlatTables.Proofs.PrintedAnswers
import FlatTables.Proofs.AppendedTexts
import FlatTables.Proofs.RecordPlaces
import FlatTables.Proofs.OpenQuotes
import FlatTables.Proofs.LoadOutcomes
import FlatTables.Proofs.MalformedLines
import FlatTables.Proofs.SplitTexts
import FlatTables.Proofs.ClauseTexts
import FlatTables.Proofs.TablePaths
import FlatTables.Proofs.IntegerReaders
