import JoinCanvas.Cardinality.Record
import JoinCanvas.Config.Load
import JoinCanvas.Proofs.Cardinality.Counting
import JoinCanvas.Proofs.Cardinality.WritingBack
import JoinCanvas.Proofs.Config.Layers
import JoinCanvas.Proofs.Config.RowLimits
import JoinCanvas.Proofs.Model.Closed
import JoinCanvas.Proofs.Sql.LimitedText
import JoinCanvas.Proofs.Sql.SecondLimit
import JoinCanvas.Proofs.Stored.Compiled
import JoinCanvas.Proofs.Stored.RoundTrip
import JoinCanvas.Proofs.Sync.Again
import JoinCanvas.Proofs.Sync.Attribution
import JoinCanvas.Proofs.Sync.BareColumns
import JoinCanvas.Proofs.Sync.FilterValues
import JoinCanvas.Proofs.Sync.References
import JoinCanvas.Proofs.Sync.RoundTrip
import JoinCanvas.Proofs.Warehouse.Cancelling
import JoinCanvas.Service
import JoinCanvas.Store.Files
import JoinCanvas.Sync.Record
import JoinCanvas.Warehouse.StatementApi
