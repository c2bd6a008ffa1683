import LogLine.Layout
import LogLine.Logger.Basic
import LogLine.Logger.Facade
import LogLine.Logger.Directives
import LogLine.Proofs.Pattern.OptionGroups
import LogLine.Proofs.Pattern.SpecifierForm
import LogLine.Proofs.Pattern.Resolution
import LogLine.Proofs.Pattern.Verbatim
import LogLine.Proofs.Pattern.Printing
import LogLine.Proofs.Pattern.Grammar
import LogLine.Proofs.Pattern.Cursor
import LogLine.Proofs.Style.HexColor
import LogLine.Proofs.Time.DateCursor
import LogLine.Proofs.Time.OffsetCut
import LogLine.Proofs.Pattern.InnerPatterns
import LogLine.Proofs.Pattern.BrokenCharacter
import LogLine.Proofs.Text.DecimalDigits
import LogLine.Proofs.Pattern.Quoting
import LogLine.Proofs.Time.KeptText
import LogLine.Proofs.Text.EscapeFree
import LogLine.Proofs.Regex.Replaced
import LogLine.Proofs.Time.DateText
import LogLine.Proofs.Pattern.ShownTexts
import LogLine.Proofs.Style.Strip
import LogLine.Proofs.Pattern.Confined
import LogLine.Proofs.Pattern.PlainOutput
import LogLine.Proofs.Pattern.Unstyled
import LogLine.Proofs.Pattern.AppendOnly
import LogLine.Proofs.Pattern.StyledOutput
import LogLine.Proofs.Pattern.Assembly
import LogLine.Proofs.Layout.AttachedError
import LogLine.Proofs.Logger.Delivery
import LogLine.Proofs.Logger.Watched
import LogLine.Proofs.Logger.EarlyAnswer
import LogLine.Proofs.Pattern.WholeFields
import LogLine.Proofs.Pattern.RawText
import LogLine.Proofs.Pattern.HiddenText
import LogLine.Proofs.Pattern.FittedField
import LogLine.Proofs.Time.MillisecondText
import LogLine.Proofs.Text.TextOrder
import LogLine.Proofs.Time.CalendarOrder
import LogLine.Proofs.Time.SortedText
import LogLine.Proofs.Text.Segments
import LogLine.Proofs.Text.ReadNumeral
import LogLine.Proofs.Pattern.NameSegments
import LogLine.Proofs.Record.SortedEntries
import LogLine.Proofs.Pattern.MergedContext
import LogLine.Proofs.Time.DatePrinting
import LogLine.Proofs.Time.OffsetSpelling
import LogLine.Proofs.Text.Enclosed
import LogLine.Proofs.Pattern.MarkedMessage
import LogLine.Proofs.Pattern.Variables
import LogLine.Proofs.Text.LetterCase
import LogLine.Proofs.Text.Words
import LogLine.Proofs.Style.StyleNames
import LogLine.Proofs.Style.NameList
import LogLine.Proofs.Pattern.HighlightOptions
import LogLine.Proofs.Pattern.KeyTable
import LogLine.Proofs.Text.Lines
import LogLine.Proofs.Pattern.ThrownOptions
import LogLine.Proofs.Pattern.CauseChain
import LogLine.Proofs.Pattern.LineSeparator
import LogLine.Proofs.Pattern.OptionSpans
import LogLine.Proofs.Pattern.AskedPatterns
import LogLine.Proofs.Pattern.ReadingStack
