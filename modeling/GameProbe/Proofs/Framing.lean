import GameProbe.Json.Parser
import GameProbe.Proofs.Responses
import GameProbe.Proofs.Transport.Cut
import GameProbe.Proofs.Wire.Grammar

/-!
# Frames are read to their end

A frame tells its length before its contents. Once that length is accepted, so many bytes are read
and no more, whatever is in them and whether they make sense or not. So what comes behind a frame is
found where it begins. A length that is not accepted is all that is read.
-/

namespace GameProbe

open EStateM.Result Decoder Carrier Wire

variable {σ π : Type} [StreamTransport σ] [Peer π] [Carrier σ π] {run : Bytes}

/-! ### Numbers before a frame -/

namespace Wire

/-- The bytes begin with a numeral of the number, the shortest or another one, and `rest` is behind
it. -/
def Tells (bytes : Bytes) (n : UInt64) (rest : Bytes) : Prop :=
  ∃ front last, bytes = front ++ last :: rest ∧ Numeral 10 1 front last ∧
    digitsValue (front ++ [last]) = n.toNat

lemma readUvarint_eq_ok_iff_tells {bytes rest : Bytes} {n : UInt64} :
    readUvarint bytes = .ok n rest ↔ Tells bytes n rest := readUvarint_eq_ok_iff

lemma Tells.append {bytes rest : Bytes} {n : UInt64} (h : Tells bytes n rest) (x : Bytes) :
    Tells (bytes ++ x) n (rest ++ x) := by
  obtain ⟨front, last, rfl, h, hvalue⟩ := h
  exact ⟨front, last, by rw [List.append_assoc, List.cons_append], h, hvalue⟩

lemma tells_base128 {n : Nat} (h : n < 2 ^ 64) (rest : Bytes) :
    Tells (base128 n ++ rest) (.ofNat n) rest :=
  readUvarint_eq_ok_iff_tells.mp (readUvarint_base128 h rest)

lemma tells_uvarint (n : UInt64) (rest : Bytes) : Tells (uvarint n ++ rest) n rest :=
  readUvarint_eq_ok_iff_tells.mp (readUvarint_uvarint n rest)

/-- A digit that goes on may be followed by one that adds nothing. -/
lemma tells_padded {b : UInt8} {n : UInt64} (hb : 128 ≤ b) (hvalue : b.toNat % 128 = n.toNat)
    (rest : Bytes) : Tells (b :: 0 :: rest) n rest := by
  have hzero : digitsValue [0] = 0 := digitsValue_singleton 0
  refine ⟨[b], 0, rfl, .cons hb (.nil (by decide) nofun), ?_⟩
  rw [List.singleton_append, digitsValue_cons, hzero, hvalue]
  rfl

lemma settles_readUvarint {field : Bytes} {n : UInt64} (h : Tells field n []) :
    Settles (readUvarint : Decoder σ UInt64) readUvarint field (.ok n) :=
  mirrors_readUvarint.settles_of_ok (readUvarint_eq_ok_iff_tells.mpr h)

lemma settles_readUInt32LE (n : UInt32) :
    Settles (readUInt32LE : Decoder σ UInt32) readUInt32LE (uint32LE n) (.ok n) :=
  mirrors_readUInt32LE.settles_of_ok (by simpa using readUInt32LE_append n [])

end Wire

/-! ### Status -/

namespace Status

variable {field : Bytes} {length packetId : UInt64}

/-- A frame all of which has come: a length within the limit, and so many bytes. -/
structure Framed (field run : Bytes) (length : UInt64) : Prop where
  tells : Tells field length []
  length_eq : run.length = length.toNat
  length_le : length.toNat ≤ maxFrameLength

/-- A frame that is sent is one that comes. -/
lemma framed_frame {payload : Bytes} (h : payload.length ≤ maxFrameLength) :
    Framed (base128 payload.length) payload (.ofNat payload.length) := by
  have hlt : payload.length < 2 ^ 64 := Nat.lt_of_le_of_lt h (by decide)
  have hlength : (UInt64.ofNat payload.length).toNat = payload.length :=
    UInt64.toNat_ofNat_of_lt' hlt
  refine ⟨?_, hlength.symm, Nat.le_trans (Nat.le_of_eq hlength) h⟩
  simpa using tells_base128 hlt []

lemma readPacket_eq_ok_iff {body rest : Bytes} :
    readPacket run = .ok (packetId, body) rest ↔ Tells run packetId body ∧ rest = body := by
  rw [readPacket, bind_eq_ok_iff]
  constructor
  · rintro ⟨id, left, hread, hpure⟩
    cases hpure
    exact ⟨readUvarint_eq_ok_iff_tells.mp hread, rfl⟩
  · rintro ⟨h, rfl⟩
    exact ⟨packetId, rest, readUvarint_eq_ok_iff_tells.mpr h, rfl⟩

/-- What is read of a frame that has come whole is its packet id and the body behind it. -/
lemma readFrame_framed (h : Framed field run length) :
    readFrame (field ++ run) = ((readPacket.within run : Decoder Bytes _) >>= fun p =>
      pure { length := length.toNat, packetId := p.1, body := p.2 }) [] := by
  have hfield : readUvarint (field ++ run) = .ok length run :=
    readUvarint_eq_ok_iff_tells.mpr (h.tells.append run)
  have hrun : readBytes length.toNat run = .ok run [] := by
    simpa [h.length_eq] using readBytes_append run []
  rw [readFrame, bind_of_ok hfield]
  dsimp only
  rw [if_neg (Nat.not_lt.mpr h.length_le), bind_of_ok hrun]

lemma readFrame_of_tells (h : Framed field run length) {body : Bytes}
    (hid : Tells run packetId body) :
    readFrame (field ++ run) = .ok { length := length.toNat, packetId, body } [] := by
  rw [readFrame_framed h]
  exact bind_of_ok (within_eq_ok_iff.mpr ⟨⟨body, readPacket_eq_ok_iff.mpr ⟨hid, rfl⟩⟩, rfl⟩)

lemma readFrameOf_of_tells (h : Framed field run length) {body : Bytes}
    (hid : Tells run packetId body) :
    readFrameOf packetId (field ++ run) = .ok { length := length.toNat, packetId, body } [] := by
  rw [readFrameOf_of_frame packetId (readFrame_of_tells h hid), if_neg (not_not_intro rfl)]

lemma tells_of_readFrameOf (h : Framed field run length) {frame : Frame} {rest : Bytes}
    (hread : readFrameOf packetId (field ++ run) = .ok frame rest) :
    Tells run packetId frame.body := by
  obtain ⟨frame', rest', hframe, -⟩ := bind_eq_ok_iff.mp hread
  rw [readFrameOf_of_frame packetId hframe] at hread
  split at hread
  · cases hread
  · rename_i hid
    cases hread
    rw [readFrame_framed h] at hframe
    obtain ⟨⟨id, body⟩, _, hwithin, ⟨⟩⟩ := bind_eq_ok_iff.mp hframe
    obtain ⟨⟨left, hpacket⟩, -⟩ := within_eq_ok_iff.mp hwithin
    exact not_not.mp hid ▸ (readPacket_eq_ok_iff.mp hpacket).1

lemma settled_readFrame (h : Framed field run length) :
    Settled (readFrame : Decoder σ Frame) readFrame (field ++ run) := by
  refine (settles_readUvarint h.tells).bind_settled ?_
  dsimp only
  rw [if_neg (Nat.not_lt.mpr h.length_le), if_neg (Nat.not_lt.mpr h.length_le)]
  exact Settled.bind ⟨_, settles_readBytes h.length_eq⟩ fun run =>
    Settled.bind ⟨_, .within run readPacket⟩ fun _ => ⟨_, .pure _⟩

lemma settled_readFrameOf (packetId : UInt64) (h : Framed field run length) :
    Settled (readFrameOf packetId : Decoder σ Frame) (readFrameOf packetId) (field ++ run) := by
  refine (settled_readFrame h).bind fun frame => ?_
  dsimp only
  split
  · exact ⟨_, .throw _⟩
  · exact ⟨_, .pure _⟩

lemma settled_readResponse (parse : Parser) (h : Framed field run length) :
    Settled (readResponse parse : Decoder σ Response) (readResponse parse) (field ++ run) :=
  (settled_readFrameOf _ h).bind fun frame =>
    Settled.bind ⟨_, .within frame.body _⟩ fun _ => ⟨_, .pure _⟩

lemma settled_readPong (h : Framed field run length) :
    Settled (readPong : Decoder σ Pong) readPong (field ++ run) :=
  (settled_readFrameOf _ h).bind fun frame =>
    Settled.bind ⟨_, .within frame.body _⟩ fun _ => ⟨_, .pure _⟩

lemma settles_readFrame_of_long (h : Tells field length [])
    (hlong : maxFrameLength < length.toNat) :
    Settles (readFrame : Decoder σ Frame) readFrame field
      (.error (.frameTooLarge length.toNat maxFrameLength)) := by
  refine (settles_readUvarint h).bind_unread ?_
  dsimp only
  rw [if_pos hlong, if_pos hlong]
  exact .bind_error (.throw _)

end Status

/-! ### Remote console -/

namespace Rcon

variable {length : UInt32}

/-- The contents of a packet all of which has come: so many bytes as its length tells, which is
within the limits. -/
structure Framed (length : UInt32) (run : Bytes) : Prop where
  length_eq : run.length = length.toNat
  le_length : minPacketLength ≤ length.toNat
  length_le : length.toNat ≤ maxPacketLength

lemma settles_readLength (hmin : minPacketLength ≤ length.toNat)
    (hmax : length.toNat ≤ maxPacketLength) :
    Settles (readLength : Decoder σ UInt32) readLength (uint32LE length) (.ok length) := by
  refine (settles_readUInt32LE length).bind_unread ?_
  rw [if_neg (Nat.not_lt.mpr hmax), if_neg (Nat.not_lt.mpr hmax), if_neg (Nat.not_lt.mpr hmin),
    if_neg (Nat.not_lt.mpr hmin)]
  exact .pure length

/-- What comes of a packet is what comes of its contents. -/
lemma settles_readPacket (h : Framed length run) :
    Settles (readPacket : Decoder σ Packet) readPacket (uint32LE length ++ run)
      (readBody length run).toExcept := by
  refine (settles_readLength h.le_length h.length_le).bind_ok ?_
  exact (settles_readBytes h.length_eq).bind_unread (.within run (readBody length))

lemma settles_readPacket_of_long (hlong : maxPacketLength < length.toNat) :
    Settles (readPacket : Decoder σ Packet) readPacket (uint32LE length)
      (.error (.frameTooLarge length.toNat maxPacketLength)) := by
  refine .bind_error ?_
  refine (settles_readUInt32LE length).bind_unread ?_
  rw [if_pos hlong, if_pos hlong]
  exact .throw _

lemma settles_readPacket_of_short (hshort : length.toNat < minPacketLength) :
    Settles (readPacket : Decoder σ Packet) readPacket (uint32LE length) (.error (.malformedPacket
      s!"rcon packet of {length.toNat} bytes is shorter than {minPacketLength}")) := by
  have hmax : ¬length.toNat > maxPacketLength :=
    Nat.not_lt.mpr (Nat.le_trans (Nat.le_of_lt hshort) (by decide))
  refine .bind_error ?_
  refine (settles_readUInt32LE length).bind_unread ?_
  rw [if_neg hmax, if_neg hmax, if_pos hshort, if_pos hshort]
  exact .throw _

end Rcon

/-! ### All of them -/

/-- Of a frame of a status, of a pong or of a remote console, just the length and so many bytes as
it tells are read, and they decide what comes of it, be it a success or any failure: what comes
behind them is left, on a byte string as well as on a stream, and whatever parses the text of a
status. If the length is not accepted, just the length is read. -/
theorem frames_read_to_their_end :
    (∀ field run length, Status.Framed field run length →
      Settled (Status.readFrame : Decoder σ Status.Frame) Status.readFrame (field ++ run) ∧
      (∀ parse, Settled (Status.readResponse parse : Decoder σ Status.Response)
        (Status.readResponse parse) (field ++ run)) ∧
      Settled (Status.readPong : Decoder σ Status.Pong) Status.readPong (field ++ run)) ∧
    (∀ field length, Tells field length [] → Status.maxFrameLength < length.toNat →
      Settles (Status.readFrame : Decoder σ Status.Frame) Status.readFrame field
        (.error (.frameTooLarge length.toNat Status.maxFrameLength)) ∧
      (∀ parse, Settles (Status.readResponse parse : Decoder σ Status.Response)
        (Status.readResponse parse) field
        (.error (.frameTooLarge length.toNat Status.maxFrameLength))) ∧
      Settles (Status.readPong : Decoder σ Status.Pong) Status.readPong field
        (.error (.frameTooLarge length.toNat Status.maxFrameLength))) ∧
    (∀ length run, Rcon.Framed length run →
      Settled (Rcon.readPacket : Decoder σ Rcon.Packet) Rcon.readPacket (uint32LE length ++ run)) ∧
    (∀ length : UInt32, Rcon.maxPacketLength < length.toNat →
      Settles (Rcon.readPacket : Decoder σ Rcon.Packet) Rcon.readPacket (uint32LE length)
        (.error (.frameTooLarge length.toNat Rcon.maxPacketLength))) ∧
    (∀ length : UInt32, length.toNat < Rcon.minPacketLength →
      Settles (Rcon.readPacket : Decoder σ Rcon.Packet) Rcon.readPacket (uint32LE length)
        (.error (.malformedPacket
          s!"rcon packet of {length.toNat} bytes is shorter than {Rcon.minPacketLength}"))) := by
  refine ⟨?_, ?_, ?_, ?_, ?_⟩
  · intro field run length h
    exact ⟨Status.settled_readFrame h, fun parse => Status.settled_readResponse parse h,
      Status.settled_readPong h⟩
  · intro field length h hlong
    have hframe : Settles (Status.readFrame : Decoder σ Status.Frame) Status.readFrame field _ :=
      Status.settles_readFrame_of_long h hlong
    exact ⟨hframe, fun _ => hframe.bind_error.bind_error, hframe.bind_error.bind_error⟩
  · exact fun length run h => ⟨_, Rcon.settles_readPacket h⟩
  · exact fun length => Rcon.settles_readPacket_of_long
  · exact fun length => Rcon.settles_readPacket_of_short

/-- A status whose text should have five bytes and has one; its length is told with a needless
digit. -/
def shortStatus : Bytes := [0x83, 0x00, 0x00, 0x05, 0x7B]

/-- A stream that brings it in pieces, with one more byte and a failure behind it. -/
def shortStream : Cut Traffic where
  peer.incoming := shortStatus.map .ok ++ [.ok 1, .error Fault.timedOut]
  reads := [some 0, none, some 1]

lemma framed_shortStatus : Status.Framed (shortStatus.take 2) (shortStatus.drop 2) 3 where
  tells := tells_padded (by decide) (by decide) []
  length_eq := rfl
  length_le := by decide

lemma readResponse_shortStatus :
    (Status.readResponse Json.parseObject shortStatus).toExcept =
      .error (.connectionClosed 5 1) := by
  with_unfolding_all rfl

theorem frames_read_to_their_end_of_shortStatus :
    (∀ x, Status.readResponse Json.parseObject (shortStatus ++ x) =
        .error (.connectionClosed 5 1) x) ∧
      (Status.readResponse Json.parseObject shortStream).mapState view =
        .error (.connectionClosed 5 1) { incoming := [.ok 1, .error Fault.timedOut] } := by
  obtain ⟨-, hstatus, -⟩ :=
    (frames_read_to_their_end (σ := Cut Traffic)).1 _ _ _ framed_shortStatus
  obtain ⟨result, hsettles⟩ := hstatus Json.parseObject
  have hresult : result = .error (.connectionClosed 5 1) :=
    hsettles.toExcept_bytes.symm.trans readResponse_shortStatus
  rw [hresult] at hsettles
  exact ⟨hsettles.bytes, hsettles.stream shortStream _ (Traffic.gives_of_incoming rfl)⟩

end GameProbe
