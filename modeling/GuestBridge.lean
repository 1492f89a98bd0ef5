import GuestBridge.Bridge.Basic
import GuestBridge.Bridge.Start
import GuestBridge.CommandLine
import GuestBridge.Container.Error
import GuestBridge.Container.Loader
import GuestBridge.Container.Writer
import GuestBridge.Events.Queue
import GuestBridge.Events.Signal
import GuestBridge.Events.Task
import GuestBridge.Floating.Value
import GuestBridge.Host
import GuestBridge.Image.Raster
import GuestBridge.Input.Event
import GuestBridge.Input.Hub
import GuestBridge.Json.Reader
import GuestBridge.Main
import GuestBridge.Memory.Basic
import GuestBridge.Proofs.AddAfterLoad
import GuestBridge.Proofs.CategoryLists
import GuestBridge.Proofs.DataSyscalls
import GuestBridge.Proofs.Delivery
import GuestBridge.Proofs.Digits
import GuestBridge.Proofs.EventRelay
import GuestBridge.Proofs.Filling
import GuestBridge.Proofs.FirstBinding
import GuestBridge.Proofs.Framing
import GuestBridge.Proofs.GetEvent
import GuestBridge.Proofs.HandleCounter
import GuestBridge.Proofs.Handles
import GuestBridge.Proofs.HostSteps
import GuestBridge.Proofs.HubHistory
import GuestBridge.Proofs.HubIndependence
import GuestBridge.Proofs.ImageDecoding
import GuestBridge.Proofs.LimitedSink
import GuestBridge.Proofs.LoadEffect
import GuestBridge.Proofs.LoadRounds
import GuestBridge.Proofs.Marshalling
import GuestBridge.Proofs.MemoryAccess
import GuestBridge.Proofs.MemoryFrame
import GuestBridge.Proofs.OrderedTable
import GuestBridge.Proofs.PanicMessage
import GuestBridge.Proofs.PayloadFraming
import GuestBridge.Proofs.PointerRelease
import GuestBridge.Proofs.PrefixFree
import GuestBridge.Proofs.QueueSteps
import GuestBridge.Proofs.RecordSizes
import GuestBridge.Proofs.Registration
import GuestBridge.Proofs.Removal
import GuestBridge.Proofs.Rendezvous
import GuestBridge.Proofs.ReportLines
import GuestBridge.Proofs.RoundTrip
import GuestBridge.Proofs.SyscallEffect
import GuestBridge.Proofs.TableMap
import GuestBridge.Proofs.Truncation
import GuestBridge.Proofs.TypedAccess
import GuestBridge.Proofs.Utf8
import GuestBridge.Proofs.Varint
import GuestBridge.Proofs.VarintCanonical
import GuestBridge.Proofs.VarintReading
import GuestBridge.Proofs.WakeUp
import GuestBridge.Proofs.WakerBookkeeping
import GuestBridge.Proofs.Writing
import GuestBridge.Report
import GuestBridge.Resource.Table
import GuestBridge.Settings.Document
import GuestBridge.Syscall.Builtin
import GuestBridge.Text.Blank
import GuestBridge.Text.Quoted
import GuestBridge.Trace
import GuestBridge.Word
import GuestBridge.Proofs.Inspection
import GuestBridge.Proofs.JsonStrings
import GuestBridge.Proofs.JsonTokens
import GuestBridge.Proofs.JsonReading
import GuestBridge.Proofs.SettingsFile
