import RemoteBatch.Command
import RemoteBatch.Digest.Sha1
import RemoteBatch.Digest.Sha256
import RemoteBatch.Files.Tree
import RemoteBatch.Log
import RemoteBatch.RunError
import RemoteBatch.Text.Base64
import RemoteBatch.Text.Decimal
import RemoteBatch.HostKey.Field
import RemoteBatch.HostKey.Algorithm
import RemoteBatch.HostKey.KeyData
import RemoteBatch.HostKey.PublicKey
import RemoteBatch.HostKey.KnownHosts
import RemoteBatch.HostKey.Policy
import RemoteBatch.CommandFile
import RemoteBatch.Run.Connector
import RemoteBatch.Run.Event
import RemoteBatch.Run.Runner
import RemoteBatch.Run.Scripted
import RemoteBatch.Settings.Arguments
import RemoteBatch.Settings.FileSettings
import RemoteBatch.Settings.Help
import RemoteBatch.Remote.Server
import RemoteBatch.Settings.Configuration
import RemoteBatch.Remote.Channel
import RemoteBatch.Remote.Session
import RemoteBatch.LogFilter
import RemoteBatch.Program
import RemoteBatch.Main
import RemoteBatch.Proofs.Run.Stages
import RemoteBatch.Proofs.Run.Calls
import RemoteBatch.Proofs.Run.Lifecycle
import RemoteBatch.Proofs.Run.Reports
import RemoteBatch.Proofs.Run.Transcript
import RemoteBatch.Proofs.Run.Plan
import RemoteBatch.Proofs.Run.Alarms
import RemoteBatch.Proofs.Remote.Cut
import RemoteBatch.Proofs.Remote.Isolation
import RemoteBatch.Proofs.Remote.Closing
import RemoteBatch.Proofs.Remote.Replies
import RemoteBatch.Proofs.Remote.Alarms
import RemoteBatch.Proofs.Text.Utf8
import RemoteBatch.Proofs.Text.Base64
import RemoteBatch.Proofs.HostKey.KeyData
import RemoteBatch.Proofs.Text.Lines
import RemoteBatch.Proofs.Text.Written
import RemoteBatch.Proofs.HostKey.Entries
import RemoteBatch.Proofs.HostKey.FirstUse
import RemoteBatch.Proofs.HostKey.Strict
import RemoteBatch.Proofs.Remote.Refusal
import RemoteBatch.Proofs.HostKey.Recording
import RemoteBatch.Proofs.Except
import RemoteBatch.Proofs.Files.Append
import RemoteBatch.Proofs.Files.Alike
import RemoteBatch.Proofs.Settings.Sources
import RemoteBatch.Proofs.Program.ExitCode
import RemoteBatch.Proofs.HostKey.Pins
import RemoteBatch.Proofs.HostKey.Frame
import RemoteBatch.Proofs.HostKey.Pinned
import RemoteBatch.Proofs.Settings.StoredPassword
import RemoteBatch.Proofs.Settings.GivenPassword
import RemoteBatch.Proofs.Remote.Verdict
import RemoteBatch.Proofs.Remote.Connecting
import RemoteBatch.Proofs.Program.Secrecy
import RemoteBatch.Proofs.Text.Decoded
import RemoteBatch.Proofs.Text.Blank
import RemoteBatch.Proofs.Settings.Spelling
import RemoteBatch.Proofs.Settings.Options
import RemoteBatch.Proofs.Settings.WellFormed
import RemoteBatch.Proofs.Settings.Precedence
import RemoteBatch.Proofs.Remote.Deadline
import RemoteBatch.Proofs.Remote.Packets
import RemoteBatch.Proofs.Remote.Requests
import RemoteBatch.Proofs.Program.Requests
import RemoteBatch.Proofs.Run.Interruption
import RemoteBatch.Proofs.Run.Unanswered
import RemoteBatch.Proofs.Run.Truncation
import RemoteBatch.Proofs.Run.DryRun
import RemoteBatch.Proofs.Settings.DryRun
import RemoteBatch.Proofs.Program.DryRun
import RemoteBatch.Proofs.Settings.Pairs
import RemoteBatch.Proofs.Settings.Noise
import RemoteBatch.Proofs.Command.Offenders
import RemoteBatch.Proofs.Command.Listing
import RemoteBatch.Proofs.Settings.CommandRoutes
import RemoteBatch.Proofs.Settings.Stages
import RemoteBatch.Proofs.Settings.RequiredPassword
import RemoteBatch.Proofs.Command.Validation
import RemoteBatch.Proofs.Run.Repetition
import RemoteBatch.Proofs.Settings.Readings
import RemoteBatch.Proofs.Settings.Verbosity
import RemoteBatch.Proofs.Run.ErrorLines
import RemoteBatch.Proofs.Program.Verbosity
import RemoteBatch.Proofs.Files.Paths
import RemoteBatch.Proofs.Settings.NamedFile
