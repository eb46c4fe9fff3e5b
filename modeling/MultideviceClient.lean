import MultideviceClient.Foundations.Machine
import MultideviceClient.Foundations.Link
import MultideviceClient.Foundations.Composition
import MultideviceClient.Foundations.Process
import MultideviceClient.Libthreema
import MultideviceClient.Event
import MultideviceClient.Store.Json
import MultideviceClient.Foundations.Hex
import MultideviceClient.Store.Nonces
import MultideviceClient.Store.Contacts
import MultideviceClient.Conversation
import MultideviceClient.D2d
import MultideviceClient.Reports
import MultideviceClient.Inbox
import MultideviceClient.Store.StateDir
import MultideviceClient.Store.FreshStart
import MultideviceClient.Foundations.Codec
import MultideviceClient.Store.Persistence
import MultideviceClient.Store.Encodings
import MultideviceClient.Store.Refinement
import MultideviceClient.Store.Batches
import MultideviceClient.Foundations.Join
import MultideviceClient.ContactNames
import MultideviceClient.Lookups
import MultideviceClient.Csp
import MultideviceClient.D2m
import MultideviceClient.E2e
import MultideviceClient.CspLink
import MultideviceClient.D2mLink
import MultideviceClient.Unsolicited
import MultideviceClient.Mediator
import MultideviceClient.Agreement
import MultideviceClient.Pairing
import MultideviceClient.ReflectAcks
import MultideviceClient.Serial
import MultideviceClient.EndOfStream
import MultideviceClient.CspSession
import MultideviceClient.CspMoves
import MultideviceClient.CspRelay
import MultideviceClient.D2mSession
import MultideviceClient.D2mMoves
import MultideviceClient.D2mRelay
import MultideviceClient.Client
import MultideviceClient.Cli
import MultideviceClient.Wiring
import MultideviceClient.Delivery
import MultideviceClient.Served
import MultideviceClient.Foundations.Decoder
import MultideviceClient.CspDecoding
import MultideviceClient.D2mDecoding
import MultideviceClient.Streams
import MultideviceClient.Lifecycle
import MultideviceClient.Progress
import MultideviceClient.Device
