import SlotKernel.Emergency
import SlotKernel.Machine.Simulated
import SlotKernel.Machine.Processor
import SlotKernel.Services.Shell
import SlotKernel.Services.RoundRobin
import SlotKernel.Proofs.Acceptance
import SlotKernel.Proofs.Advertising
import SlotKernel.Proofs.Booting
import SlotKernel.Proofs.Building
import SlotKernel.Proofs.Composition
import SlotKernel.Proofs.Contexts
import SlotKernel.Proofs.Drops
import SlotKernel.Proofs.Edits
import SlotKernel.Proofs.Fields
import SlotKernel.Proofs.Handover
import SlotKernel.Proofs.History
import SlotKernel.Proofs.Hooks
import SlotKernel.Proofs.Inspection
import SlotKernel.Proofs.Interleaving
import SlotKernel.Proofs.Mapping
import SlotKernel.Proofs.Masking
import SlotKernel.Proofs.Narrowing
import SlotKernel.Proofs.NullPage
import SlotKernel.Proofs.PageActions
import SlotKernel.Proofs.Placement
import SlotKernel.Proofs.Pointing
import SlotKernel.Proofs.Refusals
import SlotKernel.Proofs.Rebuilding
import SlotKernel.Proofs.Serving
import SlotKernel.Proofs.Staleness
import SlotKernel.Proofs.Switching
import SlotKernel.Proofs.Terminals
import SlotKernel.Proofs.Views
import SlotKernel.Proofs.Mirroring
import SlotKernel.Proofs.Ordering
import SlotKernel.Proofs.Numerals
import SlotKernel.Proofs.Handshake
import SlotKernel.Proofs.Logging
import SlotKernel.Proofs.LastWords
import SlotKernel.Proofs.Performances
