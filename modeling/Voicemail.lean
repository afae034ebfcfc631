import Voicemail.Bootstrap
import Voicemail.CommandLine.Run
import Voicemail.Diagnostics
import Voicemail.Installation
import Voicemail.Log.Message
import Voicemail.Main
import Voicemail.Proofs.Except
import Voicemail.Proofs.Client.Run
import Voicemail.Proofs.Installation.Operations
import Voicemail.Proofs.Installation.Reopen
import Voicemail.Proofs.Outbox.Deliveries
import Voicemail.Proofs.Outbox.Recovery
import Voicemail.Proofs.Outbox.Sharing
import Voicemail.Proofs.Outbox.Worker
import Voicemail.Provisioning
import Voicemail.Report.Validation
import Voicemail.Reporter
import Voicemail.Proofs.Installation.Lifecycle
import Voicemail.Proofs.Client.After
import Voicemail.Proofs.Session.Visit
import Voicemail.Proofs.Session.Closing
import Voicemail.Proofs.Session.Dialogue
import Voicemail.Proofs.Bootstrap.Commands
import Voicemail.Proofs.Bootstrap.Setup
import Voicemail.Proofs.Bootstrap.Scope
import Voicemail.Proofs.Bootstrap.Plan
import Voicemail.Proofs.Bootstrap.NewPin
import Voicemail.Proofs.Bootstrap.Cooperation
import Voicemail.Proofs.Preferences
import Voicemail.Proofs.Provisioning.Course
import Voicemail.Proofs.Provisioning.Reports
import Voicemail.Proofs.Provisioning.OwnState
import Voicemail.Proofs.Provisioning.Rerun
import Voicemail.Proofs.Provisioning.Journaling
import Voicemail.Proofs.Provisioning.LateReplies
import Voicemail.Proofs.Provisioning.Stored
import Voicemail.Proofs.Client.Oblivious
import Voicemail.Proofs.Provisioning.Confirmation
import Voicemail.Proofs.Provisioning.Noninterference
import Voicemail.Proofs.Provisioning.Secrecy
import Voicemail.Proofs.CommandLine.Switches
import Voicemail.Proofs.Preferences.History
import Voicemail.Proofs.Diagnostics
import Voicemail.Proofs.Outbox.Drains
import Voicemail.Proofs.Installation.Announcements
import Voicemail.Proofs.Provisioning.PinLength
import Voicemail.Proofs.Client.Muted
import Voicemail.Proofs.Session.Acquisition
import Voicemail.Proofs.Installation.Replays
import Voicemail.Proofs.Diagnostics.Account
import Voicemail.Proofs.Plugin.Discovery
import Voicemail.Proofs.Settings.Variables
import Voicemail.Proofs.Settings.Sections
import Voicemail.Proofs.Settings.Options
import Voicemail.Proofs.Provisioning.PinCommand
import Voicemail.Proofs.Settings.Nearest
import Voicemail.Proofs.Provisioning.Tags
import Voicemail.Proofs.Report
import Voicemail.Proofs.CommandLine.Fields
import Voicemail.Proofs.Template.Verbatim
