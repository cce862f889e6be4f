import IsaNames.Main
import IsaNames.Workspace
import IsaNames.Proofs.Dispatch
import IsaNames.Proofs.Registration
import IsaNames.Proofs.Agreement
import IsaNames.Proofs.Draft
import IsaNames.Proofs.Growth
import IsaNames.Proofs.RegisterNames
import IsaNames.Proofs.Retrieval
import IsaNames.Proofs.Overlap
import IsaNames.Proofs.Admission
import IsaNames.Proofs.Order
import IsaNames.Proofs.Closing
import IsaNames.Proofs.Runs
import IsaNames.Proofs.Permanence
import IsaNames.Proofs.Spelling
import IsaNames.Proofs.Provider
import IsaNames.Proofs.Confluence
import IsaNames.Proofs.CommandRun
import IsaNames.Proofs.Dump
import IsaNames.Proofs.FlawLog
import IsaNames.Proofs.Writes
import IsaNames.Proofs.Numbering
import IsaNames.Proofs.Mnemonics
import IsaNames.Proofs.Verbosity
import IsaNames.Proofs.Snapshot
import IsaNames.Proofs.Fallback
import IsaNames.Proofs.RiscvRegisters
import IsaNames.Proofs.IdArguments
import IsaNames.Proofs.Delivery
import IsaNames.Proofs.Completeness
import IsaNames.Proofs.NameLists
import IsaNames.Proofs.Folding
import IsaNames.Proofs.Listing
