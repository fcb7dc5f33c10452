import Lifeline.Backoff
import Lifeline.Error
import Lifeline.Event
import Lifeline.Target
import Lifeline.Binary64.Decimal
import Lifeline.Json.Printer
import Lifeline.Json.Reader
import Lifeline.Text.Blank
import Lifeline.Text.Utf8
import Lifeline.Text.Quoted
import Lifeline.Toml.Document
import Lifeline.Config.Decode
import Lifeline.Manager.Basic
import Lifeline.Observer
import Lifeline.Manager.Rehearsal
import Lifeline.CommandLine.Basic
import Lifeline.Client.Basic
import Lifeline.Session.Script
import Lifeline.Program
import Lifeline.Main
import Lifeline.Proofs.Manager.Life
import Lifeline.Proofs.Manager.Attempts
import Lifeline.Proofs.Manager.Wakeful
import Lifeline.Proofs.Manager.Balance
import Lifeline.Proofs.Manager.Inert
import Lifeline.Proofs.Manager.Draft
import Lifeline.Proofs.Manager.Late
import Lifeline.Proofs.Manager.Advisory
import Lifeline.Proofs.Manager.Delays
import Lifeline.Proofs.Client.Course
import Lifeline.Proofs.Client.Stream
import Lifeline.Proofs.Manager.Frames
import Lifeline.Proofs.Manager.Reckoning
import Lifeline.Proofs.Client.Published
import Lifeline.Proofs.Client.Accepted
import Lifeline.Proofs.Backoff
import Lifeline.Proofs.Manager.Order
import Lifeline.Proofs.Connection.Traffic
import Lifeline.Proofs.Client.Counted
import Lifeline.Proofs.Connection.Keepalive
import Lifeline.Proofs.Connection.Farewell
import Lifeline.Proofs.Transport
import Lifeline.Proofs.Terminal.Payload
import Lifeline.Proofs.Client.Reading
import Lifeline.Proofs.Program.Settings
import Lifeline.Proofs.Target
import Lifeline.Proofs.Terminal.Sitting
import Lifeline.Proofs.Terminal.Relay
import Lifeline.Proofs.Terminal.Endings
import Lifeline.Proofs.Terminal.Rehearsal
import Lifeline.Proofs.Manager.Logged
import Lifeline.Proofs.Manager.Audience
import Lifeline.Proofs.CommandLine.Words
import Lifeline.Proofs.Config.Written
