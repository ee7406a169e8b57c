import CorpusBench.Command.Answer
import CorpusBench.Main
import CorpusBench.Proofs.Command.Pending
import CorpusBench.Proofs.Graph.Reset
import CorpusBench.Proofs.Server.Spool
import CorpusBench.Proofs.Command.Convergence
import CorpusBench.Proofs.Table.Interleaving
import CorpusBench.Proofs.Command.Exclusion
import CorpusBench.Proofs.Jobs.Provenance
import CorpusBench.Proofs.Jobs.Finished
import CorpusBench.Proofs.Table.Bookmark
import CorpusBench.Proofs.Table.BulkDelete
import CorpusBench.Proofs.Jobs.FormValues
import CorpusBench.Proofs.Text.References
import CorpusBench.Proofs.Fields.Staging
import CorpusBench.Proofs.Graph.EdgeIds
import CorpusBench.Proofs.Table.Views
import CorpusBench.Proofs.Table.Failures
import CorpusBench.Proofs.Client.Addresses
import CorpusBench.Proofs.Concurrent.Spends
