import GameProbe.Bedrock.Pong
import GameProbe.Legacy.Kick
import GameProbe.Proofs.Rcon.Packet
import GameProbe.Query.Message
import GameProbe.Status.Frame

/-!
# Responses are self-delimiting

Every response of every protocol tells where it ends. None of the checks that a decoder makes on
its way, of ids, magic, sizes or numbers, can fail on a response that merely breaks off.
-/

namespace GameProbe

open Wire Decoder

/-! ### Status -/

namespace Status

lemma selfDelimiting_readFrame : SelfDelimiting readFrame := by
  refine selfDelimiting_readUvarint.bind fun length => ?_
  dsimp only
  split
  · exact .throw _
  · exact (selfDelimiting_readBytes _).bind fun run => (SelfDelimiting.within run _).map _

lemma selfDelimiting_readFrameOf (packetId : UInt64) : SelfDelimiting (readFrameOf packetId) := by
  refine selfDelimiting_readFrame.bind fun frame => ?_
  dsimp only
  split
  · exact .throw _
  · exact .pure _

lemma readFrameOf_of_frame {bytes rest : Bytes} {frame : Frame} (packetId : UInt64)
    (h : readFrame bytes = .ok frame rest) :
    readFrameOf packetId bytes =
      if frame.packetId ≠ packetId then
        .error (.unexpectedPacket packetId.toInt64 frame.packetId.toInt64) rest
      else .ok frame rest := by
  rw [readFrameOf, bind_of_ok h]
  dsimp only
  split <;> rfl

lemma selfDelimiting_readResponse (parse : Parser) : SelfDelimiting (readResponse parse) :=
  (selfDelimiting_readFrameOf _).bind fun frame => (SelfDelimiting.within frame.body _).map _

lemma selfDelimiting_readPong : SelfDelimiting readPong :=
  (selfDelimiting_readFrameOf _).bind fun frame => (SelfDelimiting.within frame.body _).map _

end Status

/-! ### Legacy ping -/

lemma Legacy.selfDelimiting_readResponse : SelfDelimiting Legacy.readResponse := by
  refine selfDelimiting_readByte.bind fun packetId => ?_
  dsimp only
  split
  · exact .throw _
  · refine selfDelimiting_readUInt16BE.bind fun length => ?_
    refine (selfDelimiting_readBytes _).bind fun run => ?_
    split
    · exact .pure _
    · exact .throw _

/-! ### Query -/

namespace Query

lemma selfDelimiting_readHeader (kind : Kind) : SelfDelimiting (readHeader kind) := by
  refine selfDelimiting_readByte.bind fun packetType => ?_
  dsimp only
  split
  · exact .throw _
  · exact selfDelimiting_readUInt32BE.map _

lemma selfDelimiting_readNumber (field : String) : SelfDelimiting (readNumber field) := by
  refine selfDelimiting_readCstring.bind fun text => ?_
  split
  · exact .pure _
  · exact .throw _

lemma selfDelimiting_readHandshake : SelfDelimiting readHandshake :=
  (selfDelimiting_readHeader _).bind fun _ => (selfDelimiting_readNumber _).map _

lemma selfDelimiting_readBasicResponse : SelfDelimiting readBasicResponse := by
  refine (selfDelimiting_readHeader _).bind fun header => ?_
  refine selfDelimiting_readCstring.bind fun motd => ?_
  refine selfDelimiting_readCstring.bind fun gameType => ?_
  refine selfDelimiting_readCstring.bind fun map => ?_
  refine (selfDelimiting_readNumber _).bind fun onlinePlayers => ?_
  refine (selfDelimiting_readNumber _).bind fun maxPlayers => ?_
  refine selfDelimiting_readUInt16LE.bind fun hostPort => ?_
  exact selfDelimiting_readCstring.map _

lemma selfDelimiting_readProperty : SelfDelimiting readProperty := by
  refine selfDelimiting_readCstring.bind fun key => ?_
  split
  · exact .pure _
  · exact selfDelimiting_readCstring.map _

lemma selfDelimiting_readPlayer : SelfDelimiting readPlayer := selfDelimiting_readCstring.map _

lemma selfDelimiting_readFullResponse : SelfDelimiting readFullResponse := by
  refine (selfDelimiting_readHeader _).bind fun header => ?_
  refine (selfDelimiting_fill 11).bind fun propertyMarker => ?_
  refine (selfDelimiting_collect _ selfDelimiting_readProperty).bind fun pairs => ?_
  refine (selfDelimiting_fill 10).bind fun playerMarker => ?_
  exact (selfDelimiting_collect _ selfDelimiting_readPlayer).map _

end Query

/-! ### Bedrock -/

namespace Bedrock

lemma selfDelimiting_readLength (variant : Variant) : SelfDelimiting variant.readLength := by
  cases variant with
  | ping => exact selfDelimiting_readUInt16BE.map _
  | stat => exact selfDelimiting_readByte.bind fun _ => selfDelimiting_readUvarint.map _

lemma selfDelimiting_readPong (variant : Variant) : SelfDelimiting (readPong variant) := by
  refine selfDelimiting_readByte.bind fun packetId => ?_
  dsimp only
  split
  · exact .throw _
  · refine selfDelimiting_readUInt64BE.bind fun timestamp => ?_
    refine selfDelimiting_readUInt64BE.bind fun serverGuid => ?_
    refine (selfDelimiting_fill 16).bind fun magic => ?_
    split
    · exact .throw _
    · refine (selfDelimiting_readLength variant).bind fun length => ?_
      exact (selfDelimiting_readBytes length).map _

end Bedrock

/-! ### All of them -/

/-- Every response decoder takes exactly the bytes of its response: with anything behind them it
succeeds in the same way and leaves just that, and when they break off early it finds the stream
closed, with fewer bytes than it wanted. Of a status this holds whatever parses its text. -/
theorem responses_selfDelimiting :
    SelfDelimiting Status.readFrame ∧ (∀ parse, SelfDelimiting (Status.readResponse parse)) ∧
    SelfDelimiting Status.readPong ∧ SelfDelimiting Legacy.readResponse ∧
    SelfDelimiting Query.readHandshake ∧ SelfDelimiting Query.readBasicResponse ∧
    SelfDelimiting Query.readFullResponse ∧ SelfDelimiting Rcon.readPacket ∧
    ∀ variant, SelfDelimiting (Bedrock.readPong variant) :=
  ⟨Status.selfDelimiting_readFrame, Status.selfDelimiting_readResponse,
    Status.selfDelimiting_readPong, Legacy.selfDelimiting_readResponse,
    Query.selfDelimiting_readHandshake, Query.selfDelimiting_readBasicResponse,
    Query.selfDelimiting_readFullResponse, Rcon.selfDelimiting_readPacket,
    Bedrock.selfDelimiting_readPong⟩

end GameProbe
