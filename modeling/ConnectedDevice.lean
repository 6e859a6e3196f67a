import ConnectedDevice.Bytes
import ConnectedDevice.Text.Hex
import ConnectedDevice.Text.Limited
import ConnectedDevice.Text.Shown
import ConnectedDevice.Text.Quoted
import ConnectedDevice.Decimal.Shortest
import ConnectedDevice.Json.Error
import ConnectedDevice.Json.Text
import ConnectedDevice.Json.Number
import ConnectedDevice.Json.Value
import ConnectedDevice.Json.Writer
import ConnectedDevice.Checksum.Crc16
import ConnectedDevice.Checksum.Crc32
import ConnectedDevice.Codec.Varint
import ConnectedDevice.Codec.Reader
import ConnectedDevice.Wlan
import ConnectedDevice.Config.System
import ConnectedDevice.Config.BootTable
import ConnectedDevice.Config.Record
import ConnectedDevice.Config.Image
import ConnectedDevice.EasyLink.ExtraData
import ConnectedDevice.Report
import ConnectedDevice.Update.Basic
import ConnectedDevice.Update.Reader
import ConnectedDevice.Notification.Basic
import ConnectedDevice.Notification.Center
import ConnectedDevice.Notification.Script
import ConnectedDevice.Describe
import ConnectedDevice.Announcement
import ConnectedDevice.Error
import ConnectedDevice.Flash.Layout
import ConnectedDevice.Flash.Nor
import ConnectedDevice.Flash.Files
import ConnectedDevice.Store
import ConnectedDevice.Monitor
import ConnectedDevice.Power
import ConnectedDevice.Device.Info
import ConnectedDevice.Device.Options
import ConnectedDevice.Device.Board
import ConnectedDevice.Device.Basic
import ConnectedDevice.Device.Reactions
import ConnectedDevice.Device.Buttons
import ConnectedDevice.Device.Boot
import ConnectedDevice.Device.Tasks
import ConnectedDevice.Provisioning.Session
import ConnectedDevice.Provisioning.Handlers
import ConnectedDevice.Provisioning.Run
import ConnectedDevice.Upload
import ConnectedDevice.Server.Message
import ConnectedDevice.Server.Handlers
import ConnectedDevice.World
import ConnectedDevice.Proofs.Bytes
import ConnectedDevice.Proofs.Text.Utf8
import ConnectedDevice.Proofs.Text.Limited
import ConnectedDevice.Proofs.Checksum.Crc16
import ConnectedDevice.Proofs.Checksum.Crc32
import ConnectedDevice.Proofs.Codec.Varint
import ConnectedDevice.Proofs.Codec.Reader
import ConnectedDevice.Proofs.Codec.Writer
import ConnectedDevice.Proofs.Codec.Spellings
import ConnectedDevice.Proofs.Config.Image
import ConnectedDevice.Proofs.Config.Decoding
import ConnectedDevice.Proofs.Config.Damage
import ConnectedDevice.Proofs.Config.Size
import ConnectedDevice.Proofs.Config.FieldLimits
import ConnectedDevice.Proofs.Config.Commit
import ConnectedDevice.Proofs.Config.Reload
import ConnectedDevice.Proofs.EasyLink.ExtraData
import ConnectedDevice.Proofs.EasyLink.Format
import ConnectedDevice.Proofs.Json.Number
import ConnectedDevice.Proofs.Json.Text
import ConnectedDevice.Proofs.Json.Grammar
import ConnectedDevice.Proofs.Json.Skip
import ConnectedDevice.Proofs.Json.Value
import ConnectedDevice.Proofs.Json.Object
import ConnectedDevice.Proofs.Json.Writer
import ConnectedDevice.Proofs.Update.Fields
import ConnectedDevice.Proofs.Update.Reading
import ConnectedDevice.Proofs.Update.Language
import ConnectedDevice.Proofs.Update.Reboot
import ConnectedDevice.Proofs.Update.Revision
import ConnectedDevice.Proofs.Report
import ConnectedDevice.Proofs.Flash.Nor
import ConnectedDevice.Proofs.Flash.Words
import ConnectedDevice.Proofs.Flash.History
import ConnectedDevice.Proofs.Flash.Interchange
import ConnectedDevice.Proofs.Store
import ConnectedDevice.Proofs.Notification.Center
import ConnectedDevice.Proofs.Notification.Dispatch
import ConnectedDevice.Proofs.Monitor.Watch
import ConnectedDevice.Proofs.Monitor.Expiry
import ConnectedDevice.Proofs.Power.Daemon
import ConnectedDevice.Proofs.Power.Requests
import ConnectedDevice.Proofs.Power.Marks
import ConnectedDevice.Proofs.Power.Service
import ConnectedDevice.Proofs.Device.Deed
import ConnectedDevice.Proofs.Device.Basic
import ConnectedDevice.Proofs.Device.Acts
import ConnectedDevice.Proofs.Device.Conduct
import ConnectedDevice.Proofs.Device.Operation
import ConnectedDevice.Proofs.Device.Registrations
import ConnectedDevice.Proofs.World.Scene
import ConnectedDevice.Proofs.World.Path
import ConnectedDevice.Proofs.World.Systems
import ConnectedDevice.Proofs.World.Law
import ConnectedDevice.Proofs.World.Record
import ConnectedDevice.Proofs.World.Conduct
import ConnectedDevice.Proofs.World.Orderly
import ConnectedDevice.Proofs.World.Progress
import ConnectedDevice.Proofs.World.Tidy
import ConnectedDevice.Proofs.World.Application
import ConnectedDevice.Proofs.World.Registrations
import ConnectedDevice.Proofs.Provisioning.Deeds
import ConnectedDevice.Proofs.Provisioning.Waiter
import ConnectedDevice.Proofs.Provisioning.Decision
import ConnectedDevice.Proofs.Provisioning.Conduct
import ConnectedDevice.Proofs.Provisioning.Verdict
import ConnectedDevice.Proofs.Provisioning.Turn
import ConnectedDevice.Proofs.Provisioning.Step
import ConnectedDevice.Proofs.Provisioning.Protocol
import ConnectedDevice.Proofs.Provisioning.Sessions
import ConnectedDevice.Proofs.Provisioning.Credentials
import ConnectedDevice.Proofs.Provisioning.Station
import ConnectedDevice.Proofs.Provisioning.Promotion
import ConnectedDevice.Proofs.Provisioning.Retention
import ConnectedDevice.Proofs.Provisioning.RollBack
import ConnectedDevice.Proofs.Provisioning.Refusal
import ConnectedDevice.Proofs.Provisioning.Unverified
import ConnectedDevice.Proofs.Provisioning.Linger
import ConnectedDevice.Proofs.Upload.Deeds
import ConnectedDevice.Proofs.Upload.Receive
import ConnectedDevice.Proofs.Upload.Ledger
import ConnectedDevice.Proofs.Upload.Pending
import ConnectedDevice.Proofs.Upload.Whole
import ConnectedDevice.Proofs.Upload.Installation
import ConnectedDevice.Proofs.Upload.Failure
import ConnectedDevice.Proofs.Server.Deeds
import ConnectedDevice.Proofs.Server.Writing
import ConnectedDevice.Proofs.Server.FailedWrites
import ConnectedDevice.Proofs.Server.RetriedWrites
import ConnectedDevice.Proofs.Server.Rejection
import ConnectedDevice.Proofs.Server.Secrecy
