import FixedWidth.CommandLine.Program
import FixedWidth.Json.Options
import FixedWidth.Main
import FixedWidth.Proofs.FormatNames
import FixedWidth.Proofs.SessionStep
import FixedWidth.Proofs.BoundedSession
import FixedWidth.Proofs.RowCount
import FixedWidth.Proofs.ProgramOutput
import FixedWidth.Proofs.Json.CellList
import FixedWidth.Proofs.InputLines
import FixedWidth.Proofs.RowStream
import FixedWidth.Proofs.Text.UnprintableRanges
import FixedWidth.Proofs.Text.PlainText
import FixedWidth.Proofs.Text.EscapedText
import FixedWidth.Proofs.Text.ColumnFields
import FixedWidth.Proofs.Text.CutText
import FixedWidth.Proofs.CellText
import FixedWidth.Proofs.RowLines
import FixedWidth.Proofs.UsableWidth
import FixedWidth.Proofs.CellIdentity
import FixedWidth.Proofs.LineCount
import FixedWidth.Proofs.LineNumbers
import FixedWidth.Proofs.PrintedLines
import FixedWidth.Proofs.RowGrammar
import FixedWidth.Proofs.FaultyLines
import FixedWidth.Proofs.IntegerCells
import FixedWidth.Proofs.LineEnds
import FixedWidth.Proofs.FloatCells
import FixedWidth.Proofs.ElapsedTime
import FixedWidth.Proofs.OptionRecords
import FixedWidth.Proofs.TitleOptions
import FixedWidth.Proofs.FilePaths
