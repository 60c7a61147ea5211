import FirmwareUpdate.Alarm
import FirmwareUpdate.Base64
import FirmwareUpdate.Bench.Chip
import FirmwareUpdate.Bench.Dialogue
import FirmwareUpdate.Bench.Line
import FirmwareUpdate.Bench.Peer
import FirmwareUpdate.Bench.Rig
import FirmwareUpdate.Bench.Samples
import FirmwareUpdate.Bench.Slots
import FirmwareUpdate.Bench.Watch
import FirmwareUpdate.Call
import FirmwareUpdate.Config
import FirmwareUpdate.Console
import FirmwareUpdate.Der
import FirmwareUpdate.Device.Boot
import FirmwareUpdate.Device.Build
import FirmwareUpdate.Device.BuildSettings
import FirmwareUpdate.Device.Flash
import FirmwareUpdate.Device.Kit
import FirmwareUpdate.Device.Link
import FirmwareUpdate.Device.Monitor
import FirmwareUpdate.Device.Settings
import FirmwareUpdate.Device.Station
import FirmwareUpdate.Device.Timer
import FirmwareUpdate.Duration
import FirmwareUpdate.Fault
import FirmwareUpdate.Files.Disk
import FirmwareUpdate.Files.Path
import FirmwareUpdate.Files.Tree
import FirmwareUpdate.Http.Client
import FirmwareUpdate.Http.Head
import FirmwareUpdate.Http.Reception
import FirmwareUpdate.Http.Request
import FirmwareUpdate.Log
import FirmwareUpdate.Main
import FirmwareUpdate.Metadata
import FirmwareUpdate.Pem
import FirmwareUpdate.Pin
import FirmwareUpdate.Proofs.Ensures
import FirmwareUpdate.Proofs.Throughout
import FirmwareUpdate.Proofs.Session.Frame
import FirmwareUpdate.Proofs.Session.Life
import FirmwareUpdate.Proofs.Session.Vetting
import FirmwareUpdate.Publish.Announcement
import FirmwareUpdate.Publish.Arguments
import FirmwareUpdate.Publish.Publisher
import FirmwareUpdate.Record.ConfigRecord
import FirmwareUpdate.Record.Defect
import FirmwareUpdate.Record.Fields
import FirmwareUpdate.Record.Number
import FirmwareUpdate.Record.Quoted
import FirmwareUpdate.Record.Reader
import FirmwareUpdate.Record.Skip
import FirmwareUpdate.Retry
import FirmwareUpdate.Scene
import FirmwareUpdate.Session.Basic
import FirmwareUpdate.Session.Transport
import FirmwareUpdate.Sha256
import FirmwareUpdate.Slot.Programmer
import FirmwareUpdate.Slot.Ring
import FirmwareUpdate.Text.Blank
import FirmwareUpdate.Text.Decimal
import FirmwareUpdate.Text.Hex
import FirmwareUpdate.Text.Invisible
import FirmwareUpdate.Text.Shortest
import FirmwareUpdate.Text.Shown
import FirmwareUpdate.Text.Split
import FirmwareUpdate.Text.Utf8
import FirmwareUpdate.Trigger
import FirmwareUpdate.Version
import FirmwareUpdate.Worker.Basic
import FirmwareUpdate.Worker.Check
import FirmwareUpdate.Worker.Cycle
import FirmwareUpdate.Worker.Download
import FirmwareUpdate.Worker.Updater
import FirmwareUpdate.Proofs.Http.Frame
import FirmwareUpdate.Proofs.Sha256
import FirmwareUpdate.Proofs.Slot.Content
import FirmwareUpdate.Proofs.Slot.Staging
import FirmwareUpdate.Proofs.Slot.Programming
import FirmwareUpdate.Proofs.Worker.Reading
import FirmwareUpdate.Proofs.Worker.Frame
import FirmwareUpdate.Proofs.Worker.Transfer
import FirmwareUpdate.Proofs.Worker.Run
import FirmwareUpdate.Proofs.Worker.Boot
import FirmwareUpdate.Proofs.Bench.Rig
import FirmwareUpdate.Proofs.Bench.Calm
import FirmwareUpdate.Proofs.Bench.Download
import FirmwareUpdate.Proofs.Http.Reads
import FirmwareUpdate.Proofs.Http.Streaming
import FirmwareUpdate.Proofs.Slot.Intake
import FirmwareUpdate.Proofs.Worker.Received
import FirmwareUpdate.Proofs.Worker.RunningSlot
import FirmwareUpdate.Proofs.Http.Feeding
import FirmwareUpdate.Proofs.Slot.Frame
import FirmwareUpdate.Proofs.Worker.Operations
import FirmwareUpdate.Proofs.Worker.Schedule
import FirmwareUpdate.Proofs.Line.Basic
import FirmwareUpdate.Proofs.Line.Session
import FirmwareUpdate.Proofs.Http.Conclusion
import FirmwareUpdate.Proofs.Worker.Pieces
import FirmwareUpdate.Proofs.Line.Client
import FirmwareUpdate.Proofs.Line.Transfer
import FirmwareUpdate.Proofs.Worker.ReadPattern
import FirmwareUpdate.Proofs.Worker.Decision
import FirmwareUpdate.Proofs.Slot.Delivery
import FirmwareUpdate.Proofs.Worker.Truncation
import FirmwareUpdate.Proofs.Worker.Delivery
import FirmwareUpdate.Proofs.Bench.Obliging
import FirmwareUpdate.Proofs.Worker.Installation
import FirmwareUpdate.Proofs.Http.Course
import FirmwareUpdate.Proofs.Slot.Custody
import FirmwareUpdate.Proofs.Worker.Course
import FirmwareUpdate.Proofs.Worker.Tidy
import FirmwareUpdate.Proofs.Resemblance
import FirmwareUpdate.Proofs.Session.Renewal
import FirmwareUpdate.Proofs.Worker.Renewal
import FirmwareUpdate.Proofs.Worker.Answers
import FirmwareUpdate.Proofs.Worker.Residue
import FirmwareUpdate.Proofs.Session.Course
import FirmwareUpdate.Proofs.Bench.Likeness
import FirmwareUpdate.Proofs.Worker.Leftovers
import FirmwareUpdate.Proofs.Text.Utf8
import FirmwareUpdate.Proofs.Text.Decimal
import FirmwareUpdate.Proofs.Text.Lines
import FirmwareUpdate.Proofs.Publish.Announcement
import FirmwareUpdate.Proofs.Http.Plain
import FirmwareUpdate.Proofs.Http.Arrivals
import FirmwareUpdate.Proofs.Worker.Agreement
import FirmwareUpdate.Proofs.Http.Asking
import FirmwareUpdate.Proofs.Worker.Service
import FirmwareUpdate.Proofs.Worker.Order
import FirmwareUpdate.Proofs.Session.Step
import FirmwareUpdate.Proofs.Worker.Loop
import FirmwareUpdate.Proofs.Worker.Gate
import FirmwareUpdate.Proofs.Worker.Teardown
import FirmwareUpdate.Proofs.Slot.Pages
import FirmwareUpdate.Proofs.Slot.Losses
import FirmwareUpdate.Proofs.Slot.Failures
import FirmwareUpdate.Proofs.Files.Tree
import FirmwareUpdate.Proofs.Publish.Release
import FirmwareUpdate.Proofs.Worker.Assessment
import FirmwareUpdate.Proofs.Worker.Persistence
import FirmwareUpdate.Proofs.Der
import FirmwareUpdate.Proofs.Base64
import FirmwareUpdate.Proofs.Pem
import FirmwareUpdate.Proofs.Http.Collecting
import FirmwareUpdate.Proofs.Http.Fragments
import FirmwareUpdate.Proofs.Http.Patience
import FirmwareUpdate.Proofs.Http.Refusals
import FirmwareUpdate.Proofs.Http.Head
import FirmwareUpdate.Proofs.Text.Ascii
import FirmwareUpdate.Proofs.Metadata.Lines
import FirmwareUpdate.Proofs.Metadata.Writing
import FirmwareUpdate.Proofs.Pin
import FirmwareUpdate.Proofs.Hesitation.Basic
import FirmwareUpdate.Proofs.Hesitation.Session
import FirmwareUpdate.Proofs.Hesitation.Client
import FirmwareUpdate.Proofs.Hesitation.Cycle
import FirmwareUpdate.Proofs.Alarm
import FirmwareUpdate.Proofs.Slot.Rotation
import FirmwareUpdate.Proofs.Http.Framing
import FirmwareUpdate.Proofs.Record.ConfigRecord
import FirmwareUpdate.Proofs.Device.Settings
import FirmwareUpdate.Proofs.Device.Monitor
import FirmwareUpdate.Proofs.Device.Link
