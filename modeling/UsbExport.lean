import UsbExport.Bench.CommandTrial
import UsbExport.Bench.DispatchTrial
import UsbExport.Bench.GuardTrial
import UsbExport.Bench.LogTrial
import UsbExport.Bench.MemoryDevice
import UsbExport.Bench.Scenario
import UsbExport.Bench.ScriptedExecutor
import UsbExport.Bench.ServerTrial
import UsbExport.CommandLine.Arguments
import UsbExport.CommandLine.Launch
import UsbExport.Config
import UsbExport.Device.Flags
import UsbExport.Device.Record
import UsbExport.Device.Setup
import UsbExport.Dispatch.Channel
import UsbExport.Dispatch.Request
import UsbExport.Host.Basic
import UsbExport.Host.Loop
import UsbExport.Host.Urbs
import UsbExport.Host.Worker
import UsbExport.Log.Filter
import UsbExport.Log.Folder
import UsbExport.Log.Journal
import UsbExport.Log.Ring
import UsbExport.Main
import UsbExport.Net.Address
import UsbExport.Proofs.Device.Naming
import UsbExport.Proofs.Host.Aftermath
import UsbExport.Proofs.Host.Asking
import UsbExport.Proofs.Host.Backlog
import UsbExport.Proofs.Host.Books
import UsbExport.Proofs.Host.Calls
import UsbExport.Proofs.Host.Cancellation
import UsbExport.Proofs.Host.Chronicle
import UsbExport.Proofs.Host.CleaningUp
import UsbExport.Proofs.Host.Completions
import UsbExport.Proofs.Host.Contents
import UsbExport.Proofs.Host.Crew
import UsbExport.Proofs.Host.Custody
import UsbExport.Proofs.Host.Deeds
import UsbExport.Proofs.Host.Departures
import UsbExport.Proofs.Host.Desk
import UsbExport.Proofs.Host.Draining
import UsbExport.Proofs.Host.Grants
import UsbExport.Proofs.Host.Hands
import UsbExport.Proofs.Host.History
import UsbExport.Proofs.Host.Holding
import UsbExport.Proofs.Host.Lanes
import UsbExport.Proofs.Host.Ledger
import UsbExport.Proofs.Host.Leftovers
import UsbExport.Proofs.Host.Marks
import UsbExport.Proofs.Host.Transfers
import UsbExport.Proofs.Host.Listings
import UsbExport.Proofs.Host.Moves
import UsbExport.Proofs.Host.Order
import UsbExport.Proofs.Host.PendingFlags
import UsbExport.Proofs.Host.Places
import UsbExport.Proofs.Host.Pledges
import UsbExport.Proofs.Host.Provenance
import UsbExport.Proofs.Host.Receipts
import UsbExport.Proofs.Host.Replies
import UsbExport.Proofs.Host.Requests
import UsbExport.Proofs.Host.Sequence
import UsbExport.Proofs.Host.Service
import UsbExport.Proofs.Host.Sizes
import UsbExport.Proofs.Host.Staff
import UsbExport.Proofs.Host.StageMoves
import UsbExport.Proofs.Host.Tally
import UsbExport.Proofs.Host.Turnover
import UsbExport.Proofs.Host.Undoing
import UsbExport.Proofs.Host.Visits
import UsbExport.Proofs.Host.Workers
import UsbExport.Proofs.Log.Currency
import UsbExport.Proofs.Log.Lines
import UsbExport.Proofs.Log.Reading
import UsbExport.Proofs.Log.Restart
import UsbExport.Proofs.Log.Retention
import UsbExport.Proofs.Log.Upkeep
import UsbExport.Proofs.Server.Restarts
import UsbExport.Proofs.Server.Succession
import UsbExport.Proofs.Session.Alike
import UsbExport.Proofs.Session.Answers
import UsbExport.Proofs.Session.Course
import UsbExport.Proofs.Session.Deeds
import UsbExport.Proofs.Session.Frames
import UsbExport.Proofs.Session.Hearing
import UsbExport.Proofs.Session.Leaving
import UsbExport.Proofs.Session.Phases
import UsbExport.Proofs.Session.Replay
import UsbExport.Proofs.Session.Sizes
import UsbExport.Proofs.Session.Stages
import UsbExport.Proofs.Session.Stay
import UsbExport.Proofs.Session.Stream
import UsbExport.Proofs.Socket.Contiguity
import UsbExport.Proofs.Socket.Deliveries
import UsbExport.Proofs.Socket.Lines
import UsbExport.Proofs.Socket.Turns
import UsbExport.Proofs.Text.Number
import UsbExport.Proofs.Text.Utf8
import UsbExport.Proofs.Wire.DeviceList
import UsbExport.Proofs.Wire.FixedFrames
import UsbExport.Proofs.Wire.Replies
import UsbExport.Proofs.Wire.SubmitCodec
import UsbExport.Server.Basic
import UsbExport.Server.Error
import UsbExport.Server.Runs
import UsbExport.Session.Basic
import UsbExport.Socket.Fault
import UsbExport.Socket.Guard
import UsbExport.Socket.Inbox
import UsbExport.Socket.Sink
import UsbExport.System.Basic
import UsbExport.System.Clock
import UsbExport.System.Schedule
import UsbExport.System.Visit
import UsbExport.Text.Blank
import UsbExport.Text.Invisible
import UsbExport.Text.Number
import UsbExport.Text.Quoted
import UsbExport.Text.Utf8
import UsbExport.Usb.Descriptor
import UsbExport.Usb.Error
import UsbExport.Usb.Transfer
import UsbExport.Wire.Bytes
import UsbExport.Wire.Command
import UsbExport.Wire.Error
import UsbExport.Wire.Header
import UsbExport.Wire.Import
import UsbExport.Wire.Reply
import UsbExport.Wire.Submit
import UsbExport.Wire.Unlink
