import Calendrics.Main
import Calendrics.Json.Reader
import Calendrics.Session
import Calendrics.Proofs.Codec
import Calendrics.Proofs.Acceptance
import Calendrics.Proofs.Conversion
import Calendrics.Proofs.DateOrder
import Calendrics.Proofs.DateGrammar
import Calendrics.Proofs.DateReading
import Calendrics.Proofs.DatePrinting
import Calendrics.Proofs.Session
import Calendrics.Proofs.NextDay
import Calendrics.Proofs.FixedWidth.Arithmetic
import Calendrics.Proofs.Json.Reading
import Calendrics.Proofs.Json.RoundTrip
import Calendrics.Proofs.FixedWidth.Gregorian
import Calendrics.Proofs.YearDay
import Calendrics.Proofs.FixedWidth.Codec
import Calendrics.Proofs.CommandLine.Filtering
import Calendrics.Proofs.CommandLine.Lines
import Calendrics.Proofs.CommandLine.Usage
import Calendrics.Proofs.Wording
import Calendrics.Proofs.CommandLine.Outcome
import Calendrics.Proofs.CommandLine.RoundTrip
import Calendrics.Proofs.Cycle
import Calendrics.Proofs.LeapYear
import Calendrics.Proofs.TextOrder
import Calendrics.Proofs.ConversionEvents
import Calendrics.Proofs.CommandLine.Call
import Calendrics.Proofs.CommandLine.Logging
import Calendrics.Proofs.CommandLine.Agreement
