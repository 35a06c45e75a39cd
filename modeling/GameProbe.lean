import GameProbe.Main
import GameProbe.Status.ServerInfo
import GameProbe.Transport.Scripted
import GameProbe.Proofs.Outcome
import GameProbe.Proofs.Wire.SelfDelimiting
import GameProbe.Proofs.Responses
import GameProbe.Proofs.Wire.Pieces
import GameProbe.Proofs.Transport.Peer
import GameProbe.Proofs.Transport.Runs
import GameProbe.Proofs.Transport.Agreement
import GameProbe.Proofs.Calls
import GameProbe.Proofs.Transport.Link
import GameProbe.Proofs.Transport.Cut
import GameProbe.Proofs.Granularity
import GameProbe.Proofs.Rcon.Packet
import GameProbe.Proofs.Text.Utf8
import GameProbe.Proofs.Rcon.Console
import GameProbe.Proofs.Rcon.Commands
import GameProbe.Proofs.EchoedIds
import GameProbe.Proofs.Transport.Moves
import GameProbe.Proofs.Transport.Watched
import GameProbe.Proofs.Lifecycle
import GameProbe.Proofs.Rcon.Authentication
import GameProbe.Proofs.Transport.Quiet
import GameProbe.Proofs.Status.Reissue
import GameProbe.Proofs.Text.Decimal
import GameProbe.Proofs.Text.Utf16
import GameProbe.Proofs.Text.Surrogates
import GameProbe.Proofs.Wire.Fixed
import GameProbe.Proofs.Wire.Numerals
import GameProbe.Proofs.Wire.Varint
import GameProbe.Proofs.Wire.Grammar
import GameProbe.Proofs.Wire.Text
import GameProbe.Proofs.Wire.Values
import GameProbe.Proofs.Legacy.Statuses
import GameProbe.Proofs.Query.Answers
import GameProbe.Proofs.Transport.Overheard
import GameProbe.Proofs.Status.Operations
import GameProbe.Proofs.Status.Progress
import GameProbe.Proofs.Rcon.Response
import GameProbe.Proofs.Status.Swallowed
import GameProbe.Proofs.Datagrams
import GameProbe.Proofs.Framing
import GameProbe.Proofs.Blame
import GameProbe.Proofs.Status.Latency
import GameProbe.Proofs.Rcon.Login
import GameProbe.Proofs.Rcon.Acceptance
import GameProbe.Proofs.Status.Requests
import GameProbe.Proofs.Legacy.Requests
import GameProbe.Proofs.Legacy.Fields
import GameProbe.Proofs.Bedrock.Slots
import GameProbe.Proofs.Bedrock.Framings
import GameProbe.Proofs.Numbers
import GameProbe.Proofs.Number.Nearest
import GameProbe.Proofs.Status.Integers
