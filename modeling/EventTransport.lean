import EventTransport.Deflate.Basic
import EventTransport.Event.Kind
import EventTransport.Number.FloatReading
import EventTransport.Proofs.Frame.Draining
import EventTransport.Proofs.Frame.RecordRoundTrip
import EventTransport.Scenario.Channels
import EventTransport.Settings.Configurator
import EventTransport.Proofs.Frame.RoundTrip
import EventTransport.Proofs.Subscriber.Life
import EventTransport.Proofs.Subscriber.Representation
import EventTransport.Proofs.Subscriber.Resumption
import EventTransport.Proofs.Bus.Hooking
import EventTransport.Proofs.Channel.Delivery
import EventTransport.Proofs.Bytes.Remainder
import EventTransport.Proofs.Frame.Compression
import EventTransport.Proofs.Frame.Damage
import EventTransport.Proofs.Frame.Reencoding
import EventTransport.Proofs.Channel.Writing
import EventTransport.Proofs.Channel.Closing
import EventTransport.Proofs.Channel.Ordering
import EventTransport.Proofs.Channel.Peers
import EventTransport.Proofs.Channel.Agreement
import EventTransport.Proofs.Bus.FanOut
import EventTransport.Proofs.Bus.Hub
import EventTransport.Proofs.Bus.Registering
import EventTransport.Proofs.Bus.PrivateQueues
import EventTransport.Proofs.Channel.Stranding
import EventTransport.Proofs.Channel.Joining
import EventTransport.Proofs.Channel.LifeCycle
import EventTransport.Proofs.Bus.Aftermath
import EventTransport.Proofs.Bus.Separation
import EventTransport.Proofs.Scenario.Performing
import EventTransport.Proofs.Channel.Stopping
import EventTransport.Proofs.Frame.Acceptance
import EventTransport.Proofs.Frame.Decision
import EventTransport.Proofs.Frame.RecordReading
import EventTransport.Proofs.Frame.Canonicity
import EventTransport.Proofs.Deflate.Delimiting
import EventTransport.Proofs.Deflate.Restoring
import EventTransport.Proofs.Frame.Bounds
import EventTransport.Proofs.Json.Rearrangement
import EventTransport.Proofs.Settings.Plan
import EventTransport.Proofs.Settings.Sheets
import EventTransport.Proofs.Bus.Bookkeeping
import EventTransport.Proofs.Settings.Pushing
import EventTransport.Proofs.Settings.Limits
import EventTransport.Proofs.Channel.Joiners
import EventTransport.Proofs.Event.TypedProperties
import EventTransport.Proofs.Event.Kinds
import EventTransport.Proofs.Subscriber.Tracking
import EventTransport.Proofs.Channel.Emptying
