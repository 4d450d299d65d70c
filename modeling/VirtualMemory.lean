import VirtualMemory.Action
import VirtualMemory.Address
import VirtualMemory.Chance
import VirtualMemory.Config
import VirtualMemory.Config.Language
import VirtualMemory.Eviction
import VirtualMemory.Failure
import VirtualMemory.Frame.Memory
import VirtualMemory.Frame.Pins
import VirtualMemory.Frame.Pool
import VirtualMemory.Frame.Tables
import VirtualMemory.Kernel
import VirtualMemory.Lock.Condition
import VirtualMemory.Lock.Interrupts
import VirtualMemory.Lock.Sleep
import VirtualMemory.Lock.Ticket
import VirtualMemory.Page
import VirtualMemory.PageFlags
import VirtualMemory.Pager.Frames
import VirtualMemory.Pager.Mapping
import VirtualMemory.Pager.State
import VirtualMemory.Pager.SwapIn
import VirtualMemory.Pager.Upkeep
import VirtualMemory.ProcessTable
import VirtualMemory.Proofs.Config.Language
import VirtualMemory.Proofs.Config.Settings
import VirtualMemory.Proofs.Eviction
import VirtualMemory.Proofs.Flat.Machine
import VirtualMemory.Proofs.Flat.Memory
import VirtualMemory.Proofs.Flat.Refinement
import VirtualMemory.Proofs.Flat.Simulation
import VirtualMemory.Proofs.Frame.Handouts
import VirtualMemory.Proofs.Frame.History
import VirtualMemory.Proofs.Frame.LastStored
import VirtualMemory.Proofs.Frame.Memory
import VirtualMemory.Proofs.Frame.PinCounts
import VirtualMemory.Proofs.Frame.Pins
import VirtualMemory.Proofs.Frame.Pool
import VirtualMemory.Proofs.Frame.Tables
import VirtualMemory.Proofs.Kernel.Bystanders
import VirtualMemory.Proofs.Kernel.Caches
import VirtualMemory.Proofs.Kernel.Departures
import VirtualMemory.Proofs.Kernel.DirtyBits
import VirtualMemory.Proofs.Kernel.Effects
import VirtualMemory.Proofs.Kernel.FailedEviction
import VirtualMemory.Proofs.Kernel.Faults
import VirtualMemory.Proofs.Kernel.FrameSupply
import VirtualMemory.Proofs.Kernel.Lifecycle
import VirtualMemory.Proofs.Kernel.Ownership
import VirtualMemory.Proofs.Kernel.PinBalance
import VirtualMemory.Proofs.Kernel.Reachable
import VirtualMemory.Proofs.Kernel.Reclamation
import VirtualMemory.Proofs.Kernel.Remapping
import VirtualMemory.Proofs.Kernel.Resident
import VirtualMemory.Proofs.Kernel.Segfaults
import VirtualMemory.Proofs.Kernel.Shutdown
import VirtualMemory.Proofs.Kernel.SwapIn
import VirtualMemory.Proofs.Kernel.Transfers
import VirtualMemory.Proofs.Lock.Exclusion
import VirtualMemory.Proofs.Lock.HandOver
import VirtualMemory.Proofs.Lock.Tickets
import VirtualMemory.Proofs.Outcome
import VirtualMemory.Proofs.Pager.Accounts
import VirtualMemory.Proofs.Pager.Bookkeeping
import VirtualMemory.Proofs.Pager.Caches
import VirtualMemory.Proofs.Pager.Devices
import VirtualMemory.Proofs.Pager.Effects
import VirtualMemory.Proofs.Pager.Equipped
import VirtualMemory.Proofs.Pager.Fitted
import VirtualMemory.Proofs.Pager.Guards
import VirtualMemory.Proofs.Pager.Resident
import VirtualMemory.Proofs.Pager.Session
import VirtualMemory.Proofs.Pager.Settled
import VirtualMemory.Proofs.Pager.Steady
import VirtualMemory.Proofs.Pager.SwapIn
import VirtualMemory.Proofs.Pager.Upheld
import VirtualMemory.Proofs.Pager.View
import VirtualMemory.Proofs.Process.Accesses
import VirtualMemory.Proofs.Process.Exit
import VirtualMemory.Proofs.Process.Requests
import VirtualMemory.Proofs.Process.Spared
import VirtualMemory.Proofs.Process.Usage
import VirtualMemory.Proofs.Storage.Agreement
import VirtualMemory.Proofs.Storage.Bytes
import VirtualMemory.Proofs.Storage.Inodes
import VirtualMemory.Proofs.Storage.PlainFiles
import VirtualMemory.Proofs.Storage.Removal
import VirtualMemory.Proofs.Storage.RoundTrip
import VirtualMemory.Proofs.Storage.SlotLayout
import VirtualMemory.Proofs.Storage.Slots
import VirtualMemory.Proofs.Storage.SwapFile
import VirtualMemory.Proofs.Text
import VirtualMemory.Proofs.Tlb
import VirtualMemory.Proofs.Tlb.CacheMap
import VirtualMemory.Proofs.Tlb.Slots
import VirtualMemory.Proofs.VictimSearch
import VirtualMemory.Proofs.Workload.Counting
import VirtualMemory.Proofs.Workload.Paging
import VirtualMemory.Proofs.Workload.Sleeping
import VirtualMemory.Proofs.Workload.Spinning
import VirtualMemory.Proofs.Workload.Waiting
import VirtualMemory.Span
import VirtualMemory.Storage.Contents
import VirtualMemory.Storage.Directory
import VirtualMemory.Storage.Ephemeral
import VirtualMemory.Storage.Faulty
import VirtualMemory.Storage.FileSystem
import VirtualMemory.Storage.SwapFile
import VirtualMemory.Storage.Volume
import VirtualMemory.Text.Blank
import VirtualMemory.Text.Numeral
import VirtualMemory.Tlb
import VirtualMemory.TlbBank
import VirtualMemory.Translation
import VirtualMemory.UserProcess
import VirtualMemory.Workload.Counting
import VirtualMemory.Workload.Paging
import VirtualMemory.Workload.Waiting
