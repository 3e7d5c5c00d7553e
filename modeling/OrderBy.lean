import OrderBy.Config.Document
import OrderBy.Fault.Message
import OrderBy.Proofs.Configuration
import OrderBy.Proofs.Expression.Canonical
import OrderBy.Proofs.Expression.FieldNames
import OrderBy.Proofs.Expression.Journal
import OrderBy.Proofs.Order.Turning
import OrderBy.Proofs.Reading.Dependence
import OrderBy.Proofs.Record.Extractor
import OrderBy.Proofs.Session
import OrderBy.Proofs.Sorting.Fixpoint
import OrderBy.Proofs.Sorting.LowerKeys
import OrderBy.Proofs.Sorting.Misfits
import OrderBy.Proofs.Sorting.MultiPass
import OrderBy.Proofs.Sorting.Neighbours
import OrderBy.Proofs.Sorting.PartialOrder
import OrderBy.Proofs.Sorting.RepeatedFields
import OrderBy.Proofs.Sorting.Reversal
import OrderBy.Proofs.Sorting.WholeKeys
import OrderBy.Proofs.Value.SetTable
import OrderBy.Yaml.Document
