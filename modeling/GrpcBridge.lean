import GrpcBridge.Theory.Machine
import GrpcBridge.Theory.Keyed
import GrpcBridge.Theory.Indexed
import GrpcBridge.Theory.Tally
import GrpcBridge.Theory.Fallible
import GrpcBridge.Theory.BigEndian
import GrpcBridge.Theory.WebSocket
import GrpcBridge.Theory.RecordStream
import GrpcBridge.Theory.CaseFolding
import GrpcBridge.Theory.Text
import GrpcBridge.Theory.JsonText
import GrpcBridge.Theory.JsonDecoder
import GrpcBridge.Theory.JsonStruct
import GrpcBridge.Admission.StrictJson
import GrpcBridge.Tunnel.Socket
import GrpcBridge.Tunnel.Relay
import GrpcBridge.Tunnel.Transparency
import GrpcBridge.Tunnel.ShortWrites
import GrpcBridge.Tunnel.Malformed
import GrpcBridge.Tunnel.Writers
import GrpcBridge.Tunnel.Downstream
import GrpcBridge.Tunnel.CutFrames
import GrpcBridge.Gateway.State
import GrpcBridge.Gateway.Serve
import GrpcBridge.Gateway.Statements
import GrpcBridge.Gateway.Moves
import GrpcBridge.Gateway.Sockets
import GrpcBridge.Gateway.Accounting
import GrpcBridge.Admission.Request
import GrpcBridge.Admission.Unambiguous
import GrpcBridge.Admission.Soundness
import GrpcBridge.Gateway.Attempts
import GrpcBridge.Gateway.Quota
import GrpcBridge.Gateway.Drain
import GrpcBridge.Gateway.Shutdown
import GrpcBridge.Gateway.ForcedShutdown
import GrpcBridge.H2.Frame
import GrpcBridge.H2.HeaderBlocks
import GrpcBridge.H2.Stream
import GrpcBridge.H2.Connection
import GrpcBridge.H2.Session
import GrpcBridge.H2.Effects
import GrpcBridge.H2.Steps
import GrpcBridge.H2.Ledger
import GrpcBridge.H2.ReceiveCredit
import GrpcBridge.Retry.Replay
import GrpcBridge.Retry.ReplayFidelity
import GrpcBridge.Retry.Transport
import GrpcBridge.Retry.Moves
import GrpcBridge.Retry.Turns
import GrpcBridge.Theory.TokenBucket
import GrpcBridge.Retry.Throttling
import GrpcBridge.Retry.AttemptAccounting
import GrpcBridge.Theory.Timers
import GrpcBridge.Retry.Deadlines
import GrpcBridge.Retry.BufferAccounting
import GrpcBridge.Retry.Commitment
import GrpcBridge.H2.Settlement
import GrpcBridge.H2.CompletedResponse
import GrpcBridge.H2.RequestBlocks
import GrpcBridge.H2.Requests
import GrpcBridge.H2.StreamSlots
import GrpcBridge.H2.RetryEvidence
import GrpcBridge.Admission.Canonical
import GrpcBridge.Rpc.Framing
import GrpcBridge.Rpc.Responses
import GrpcBridge.Theory.NumberText
import GrpcBridge.Theory.Serialization
import GrpcBridge.Contracts.CanonicalJson
import GrpcBridge.Recovery.Connection
import GrpcBridge.Recovery.Lifecycle
import GrpcBridge.Recovery.Listeners
import GrpcBridge.Recovery.Selections
import GrpcBridge.Recovery.Shared
import GrpcBridge.Recovery.Leases
import GrpcBridge.Retry.Attempts
import GrpcBridge.Retry.TransparentRetry
import GrpcBridge.Theory.Traversal
import GrpcBridge.Theory.Sorting
import GrpcBridge.Theory.InsertionMap
import GrpcBridge.Contracts.Descriptors
import GrpcBridge.Contracts.RuntimeGraph
import GrpcBridge.Contracts.Discovery
import GrpcBridge.Contracts.Relocation
import GrpcBridge.Contracts.Freezing
import GrpcBridge.Contracts.Immutability
import GrpcBridge.Contracts.GraphText
import GrpcBridge.Contracts.DeclarationOrder
import GrpcBridge.Theory.Bits
import GrpcBridge.Theory.PrefixCode
import GrpcBridge.Theory.Utf8
import GrpcBridge.H2.HuffmanTable
import GrpcBridge.H2.Huffman
import GrpcBridge.H2.Hpack
import GrpcBridge.Theory.Eviction
import GrpcBridge.H2.HpackTable
import GrpcBridge.H2.HpackRoundTrip
import GrpcBridge.H2.HpackPeer
import GrpcBridge.Theory.Fragments
import GrpcBridge.Theory.Incremental
import GrpcBridge.H2.Codec
import GrpcBridge.H2.CodecRoundTrip
import GrpcBridge.H2.SendCredit
import GrpcBridge.H2.BodyPump
import GrpcBridge.H2.HeaderLists
