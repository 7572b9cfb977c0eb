import ChatChannels.Data.Reading
import ChatChannels.Main
import ChatChannels.Metrics
import ChatChannels.Proofs.Channel.Audience
import ChatChannels.Proofs.Channel.Authority
import ChatChannels.Proofs.Channel.Banishment
import ChatChannels.Proofs.Channel.Mirror
import ChatChannels.Proofs.Channel.Refused
import ChatChannels.Proofs.Channel.Roles
import ChatChannels.Proofs.Registry.Absence
import ChatChannels.Proofs.Registry.Live
import ChatChannels.Proofs.Registry.Membership
import ChatChannels.Proofs.Registry.Refinement
import ChatChannels.Proofs.Directory
import ChatChannels.Proofs.Registry.Recipients
import ChatChannels.Proofs.Channel.Departure
import ChatChannels.Proofs.Registry.Parting
import ChatChannels.Proofs.Console.Line
import ChatChannels.Proofs.Console.Session
import ChatChannels.Proofs.Throttle
import ChatChannels.Proofs.Registry.Budget
import ChatChannels.Proofs.Channel.Ignoring
import ChatChannels.Proofs.Registry.Handle
import ChatChannels.Proofs.Registry.Ignoring
import ChatChannels.Proofs.Registry.Independence
import ChatChannels.Proofs.Metrics
import ChatChannels.Proofs.Channel.Counted
import ChatChannels.Proofs.Registry.Metering
import ChatChannels.Proofs.Registry.BuiltIns
import ChatChannels.Proofs.Channel.Repetition
import ChatChannels.Proofs.Channel.Handover
import ChatChannels.Proofs.Channel.Succession
import ChatChannels.Proofs.Channel.Conversion
import ChatChannels.Proofs.Console.Input
import ChatChannels.Proofs.Channel.Admission
import ChatChannels.Proofs.Channel.Inquiry
import ChatChannels.Proofs.Channel.Speech
import ChatChannels.Proofs.Channel.Denial
import ChatChannels.Proofs.Console.Printing
import ChatChannels.Proofs.Throttle.Sweeping
import ChatChannels.Proofs.Registry.Startup
import ChatChannels.Proofs.Console.Grammar
import ChatChannels.Proofs.Config.Overlay
import ChatChannels.Proofs.Directory.Lookup
import ChatChannels.Proofs.Registry.Draining
import ChatChannels.Proofs.Channel.Transfer
import ChatChannels.Proofs.Message.Form
import ChatChannels.Proofs.Roster.InsertionOrder
