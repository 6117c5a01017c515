import SIUnits.Decimal.Lemmas
import SIUnits.Main
import SIUnits.Proofs.Binary64.Signed
import SIUnits.Proofs.Command.Agreement
import SIUnits.Proofs.Console.Plain
import SIUnits.Proofs.Conversion.Answer
import SIUnits.Proofs.Conversion.Compatibility
import SIUnits.Proofs.Conversion.Exact
import SIUnits.Proofs.Conversion.FirstFailure
import SIUnits.Proofs.Conversion.Monotone
import SIUnits.Proofs.Conversion.Range
import SIUnits.Proofs.Conversion.RoundTrip
import SIUnits.Proofs.Conversion.Totality
import SIUnits.Proofs.Conversion.Trail
import SIUnits.Proofs.Decimal.Grammar
import SIUnits.Proofs.Failure.Code
import SIUnits.Proofs.Failure.Context
import SIUnits.Proofs.Failure.Record
import SIUnits.Proofs.Field.Construction
import SIUnits.Proofs.Query.Number
import SIUnits.Proofs.Query.Printed
import SIUnits.Proofs.Query.Syntax
import SIUnits.Proofs.Settings.Environment
import SIUnits.Proofs.Settings.Registry
import SIUnits.Proofs.Unit.TableOrder
import SIUnits.Proofs.Console.Plain
