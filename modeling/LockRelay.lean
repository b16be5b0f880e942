import LockRelay.Advert
import LockRelay.Bytes
import LockRelay.Cipher.Aes
import LockRelay.Cipher.Channel
import LockRelay.Cipher.CounterMode
import LockRelay.Cipher.Stream
import LockRelay.CommandLine.Option
import LockRelay.CommandLine.Program
import LockRelay.CommandLine.Reader
import LockRelay.Config
import LockRelay.Controller.Http
import LockRelay.Controller.Network
import LockRelay.Controller.RelayError
import LockRelay.Credentials
import LockRelay.Decimal.Binary64
import LockRelay.Decimal.Shortest
import LockRelay.Dispatch.Handling
import LockRelay.Dispatch.Log
import LockRelay.Dispatch.Relay
import LockRelay.Dispatch.State
import LockRelay.Duration
import LockRelay.Hex
import LockRelay.Json.Fault
import LockRelay.Json.Printer
import LockRelay.Json.Scan
import LockRelay.Json.Structure
import LockRelay.Json.Value
import LockRelay.Link.Device
import LockRelay.Log
import LockRelay.Main
import LockRelay.Session.Background
import LockRelay.Session.Calls
import LockRelay.Session.Operation
import LockRelay.Session.State
import LockRelay.Text.Basic
import LockRelay.Text.Unprintable
import LockRelay.Text.Utf8
import LockRelay.Uri
import LockRelay.Uuid
import LockRelay.Wire.Fields
import LockRelay.Wire.Message
import LockRelay.Wire.Reader
import LockRelay.Proofs.Cipher.ChannelCalls
import LockRelay.Proofs.Cipher.Exchange
import LockRelay.Proofs.Cipher.KeystreamUse
import LockRelay.Proofs.Cipher.Splitting
import LockRelay.Proofs.Cipher.KeyMaterial
import LockRelay.Proofs.Cipher.Disclosure
import LockRelay.Proofs.Advert.Targets
import LockRelay.Proofs.Advert.MaskedBits
import LockRelay.Proofs.Text.Hexadecimal
import LockRelay.Proofs.Dispatch.Hearing
import LockRelay.Proofs.Dispatch.InStep
import LockRelay.Proofs.Dispatch.RefusedOpen
import LockRelay.Proofs.Dispatch.RelayedFrames
import LockRelay.Proofs.Session.BoundSends
import LockRelay.Proofs.Session.StaleDrops
import LockRelay.Proofs.Session.Teardown
import LockRelay.Proofs.Session.Admission
import LockRelay.Proofs.Session.Prompts
import LockRelay.Proofs.Dispatch.SentPayloads
import LockRelay.Proofs.Dispatch.SuccessfulOpens
import LockRelay.Proofs.Dispatch.SuccessfulCloses
import LockRelay.Proofs.Dispatch.RelayLoop
import LockRelay.Proofs.Dispatch.Aims
import LockRelay.Proofs.Dispatch.LoopSteps
import LockRelay.Proofs.Dispatch.RelaySteps
import LockRelay.Proofs.Dispatch.RelayRefinement
import LockRelay.Proofs.Session.Silence
import LockRelay.Proofs.Session.Occupancy
import LockRelay.Proofs.Session.Recovery
import LockRelay.Proofs.Wire.RoundTrip
import LockRelay.Proofs.Session.ConnectOutcomes
import LockRelay.Proofs.Json.FiniteNumbers
import LockRelay.Proofs.Wire.CommandGrammar
import LockRelay.Proofs.Wire.MemberOrder
import LockRelay.Proofs.Controller.Exchanges
