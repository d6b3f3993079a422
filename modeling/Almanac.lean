import Almanac.Text.Blank
import Almanac.Text.Number
import Almanac.Text.Reader
import Almanac.Text.Json
import Almanac.Magnitude
import Almanac.TimeUnit
import Almanac.Duration
import Almanac.Operator
import Almanac.Calendar.Year
import Almanac.Calendar.Date
import Almanac.Calendar.Week
import Almanac.Calendar.Names
import Almanac.Reading
import Almanac.Instant
import Almanac.Value
import Almanac.Error
import Almanac.Zone
import Almanac.Zone.America
import Almanac.Zone.Europe
import Almanac.Zone.Asia
import Almanac.Zone.Pacific
import Almanac.Zone.Antarctica
import Almanac.Zone.Named
import Almanac.Present
import Almanac.DateText.Field
import Almanac.DateText.Shape
import Almanac.DateText.Internet
import Almanac.DateText.Mail
import Almanac.DateText
import Almanac.Template.Item
import Almanac.Template.Directive
import Almanac.Template.Token
import Almanac.Template
import Almanac.Expression
import Almanac.Move
import Almanac.Difference
import Almanac.Evaluation
import Almanac.Manual
import Almanac.CommandLine
import Almanac.Main
import Almanac.Proofs.Months
import Almanac.Proofs.MonthSearches
import Almanac.Proofs.Counting
import Almanac.Proofs.Clocks
import Almanac.Proofs.Moves
import Almanac.Proofs.Agreement
import Almanac.Proofs.Typing
import Almanac.Proofs.Soundness
import Almanac.Proofs.Grammar
import Almanac.Proofs.Shown
import Almanac.Proofs.DateEnds
import Almanac.Proofs.Operands
import Almanac.Proofs.Alike
import Almanac.Proofs.ElapsedTime
import Almanac.Proofs.Fields
import Almanac.Proofs.Stamps
import Almanac.Proofs.Spelling
import Almanac.Proofs.Anchors
import Almanac.Proofs.Formats
import Almanac.Proofs.Rounding
import Almanac.Proofs.NearestWhole
import Almanac.Proofs.RunningSums
import Almanac.Proofs.ElapsedSums
import Almanac.Proofs.Decimals
import Almanac.Proofs.DurationSums
import Almanac.Proofs.FirstMoments
import Almanac.Proofs.DayStarts
import Almanac.Proofs.Pieces
import Almanac.Proofs.Writing
import Almanac.Proofs.Joining
import Almanac.Proofs.Segments
import Almanac.Proofs.Translation
import Almanac.Proofs.Specifiers
import Almanac.Proofs.Resolving
import Almanac.Proofs.WallMoves
import Almanac.Proofs.DaySums
import Almanac.Proofs.NeighbouringDays
import Almanac.Proofs.DurationWords
import Almanac.Proofs.Subtraction
import Almanac.Proofs.Numerals
import Almanac.Proofs.DayTexts
import Almanac.Proofs.TimeTexts
import Almanac.Proofs.WallTexts
import Almanac.Proofs.TemplateTexts
