import Backplane.Main
import Backplane.Proofs.Content.Ranges
import Backplane.Proofs.Memory.Access
import Backplane.Proofs.Memory.AddressMap
import Backplane.Proofs.Dialog.Requests
import Backplane.Proofs.Disk.ByteStream
import Backplane.Proofs.Disk.Transfer
import Backplane.Proofs.Machine.Storage
import Backplane.Proofs.Machine.ProgramStorage
import Backplane.Proofs.Machine.World
import Backplane.Proofs.Disk.Completed
import Backplane.Proofs.Disk.SectorArray
import Backplane.Proofs.Dialog.Lockstep
import Backplane.Proofs.Disk.FailedTransfers
import Backplane.Proofs.Disk.ImageLength
import Backplane.Proofs.Host.Opening
import Backplane.Proofs.Host.Apart
import Backplane.Proofs.Store.Persistence
import Backplane.Proofs.Machine.Persistence
import Backplane.Proofs.Host.Beside
import Backplane.Proofs.Host.SameFiles
import Backplane.Proofs.Memory.Lockstep
import Backplane.Proofs.Memory.Mirror
import Backplane.Proofs.Disk.Lockstep
import Backplane.Proofs.Machine.Lockstep
import Backplane.Proofs.Machine.ArrayTwin
import Backplane.Proofs.Machine.History
import Backplane.Proofs.Host.Names
import Backplane.Proofs.Disk.Drives
import Backplane.Proofs.Machine.Confinement
import Backplane.Proofs.Machine.Renumbered
import Backplane.Proofs.Machine.Independence
import Backplane.Proofs.Dialog.Script
import Backplane.Proofs.Dialog.TypeAhead
import Backplane.Proofs.Dialog.Passes
import Backplane.Proofs.Machine.SerialLine
import Backplane.Proofs.Machine.PortFrames
import Backplane.Proofs.Memory.Blocks
import Backplane.Proofs.Memory.Checked
import Backplane.Proofs.Disk.Checked
import Backplane.Proofs.Machine.Checked
import Backplane.Proofs.Memory.Layout
import Backplane.Proofs.CommandLine.StorageSizes
import Backplane.Proofs.CommandLine.Logging
import Backplane.Proofs.CommandLine.Startup
import Backplane.Proofs.Disk.Outcome
import Backplane.Proofs.Disk.BusWrites
import Backplane.Proofs.Disk.WholeWrites
import Backplane.Proofs.Dialog.Display
import Backplane.Proofs.Machine.PortTable
import Backplane.Proofs.Memory.ProgramImage
import Backplane.Proofs.Numeral.Reading
import Backplane.Proofs.Dialog.Dump
import Backplane.Proofs.Machine.Refusal
import Backplane.Proofs.Numeral.Grammar
import Backplane.Proofs.Host.Stems
import Backplane.Proofs.Dialog.DriveLabels
import Backplane.Proofs.Memory.Warnings
import Backplane.Proofs.Disk.Warnings
import Backplane.Proofs.Machine.Warnings
