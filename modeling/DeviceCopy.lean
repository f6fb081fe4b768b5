import DeviceCopy.Digest
import DeviceCopy.Pattern
import DeviceCopy.Session.Run
import DeviceCopy.Proofs.History
import DeviceCopy.Proofs.Kernel.Accesses
import DeviceCopy.Proofs.Kernel.Interleaving
import DeviceCopy.Proofs.Kernel.Ownership
import DeviceCopy.Proofs.Kernel.Programs
import DeviceCopy.Proofs.Kernel.Races
import DeviceCopy.Proofs.Launch.Covering
import DeviceCopy.Proofs.Emulated.HostSteps
import DeviceCopy.Proofs.Emulated.Reachable
import DeviceCopy.Proofs.Emulated.EntryPoints
import DeviceCopy.Proofs.Emulated.CheckedCopy
import DeviceCopy.Proofs.Emulated.Clones
import DeviceCopy.Proofs.Emulated.Refinement
import DeviceCopy.Proofs.Emulated.CopyOutcome
import DeviceCopy.Proofs.Emulated.Interchange
import DeviceCopy.Proofs.Stream.Faults
import DeviceCopy.Proofs.Parity
import DeviceCopy.Proofs.SharedLists
import DeviceCopy.Proofs.Buffers.Ledger
import DeviceCopy.Proofs.Buffers.Lending
import DeviceCopy.Proofs.Buffers.Housing
import DeviceCopy.Proofs.Emulated.Housing
import DeviceCopy.Proofs.WebGpu.Housing
import DeviceCopy.Proofs.Buffers.Overlap
import DeviceCopy.Proofs.Lifecycle
import DeviceCopy.Proofs.Emulated.Overlap
import DeviceCopy.Proofs.WebGpu.Overlap
import DeviceCopy.Proofs.Overlap
import DeviceCopy.Proofs.WebGpu.Callers
import DeviceCopy.Proofs.WebGpu.Handles
import DeviceCopy.Proofs.Kernel.GridStride
import DeviceCopy.Proofs.Kernel.SinglePass
import DeviceCopy.Proofs.Emulated.Admission
import DeviceCopy.Proofs.ErrorFlags
import DeviceCopy.Proofs.WebGpu.Coverage
import DeviceCopy.Proofs.WebGpu.Strides
import DeviceCopy.Proofs.HostTransfers
import DeviceCopy.Proofs.ByteSizes
import DeviceCopy.Proofs.WebGpu.GroupWidth
import DeviceCopy.Proofs.Emulated.DefaultClients
import DeviceCopy.Proofs.WebGpu.PipelineRaces
import DeviceCopy.Proofs.Launch.Configuration
import DeviceCopy.Proofs.Kernel.Staging
