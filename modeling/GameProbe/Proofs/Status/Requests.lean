import GameProbe.Proofs.Status.Latency

/-!
# Status messages on the other side

A server that reads the two frames of a request finds in them just what the client was told. Of a
status that comes back, the JSON text alone decides, however the numbers before it are told and
whatever comes behind it.
-/

namespace GameProbe.Status

open EStateM.Result Decoder Wire

/-! ### Servers -/

/-- What a handshake tells a server. -/
structure Handshake where
  version : Int32
  host : String
  port : UInt16
  nextState : UInt64

/-- The body of a handshake, as a server reads it. -/
def readHandshake : Decoder Bytes Handshake := do
  let version ← readVarint
  let host ← readPrefixedString
  let port ← readUInt16BE
  let nextState ← readUvarint
  return { version, host, port, nextState }

/-- The handshake and the status request behind it, as a server reads them. -/
def readRequest {σ : Type} [ByteSource σ] : Decoder σ (Frame × Frame) := do
  let handshake ← readFrame
  let statusRequest ← readFrame
  return (handshake, statusRequest)

/-! ### Requests -/

/-- What stands in the frame of a handshake behind the packet id. -/
def handshakeBody (host : String) (port : UInt16) : Bytes :=
  varint unknownVersion ++ prefixedString host ++ uint16BE port ++ uvarint statusState

/-- What the frame of a handshake is put around. -/
def handshakePayload (host : String) (port : UInt16) : Bytes :=
  uvarint handshakeId ++ handshakeBody host port

variable {host : String} {port : UInt16}

lemma handshakeRequest_eq (host : String) (port : UInt16) :
    handshakeRequest host port =
      frame (handshakePayload host port) ++ frame (uvarint handshakeId) := by
  simp only [handshakeRequest, handshakePayload, handshakeBody, List.append_assoc]

lemma readHandshake_handshakeBody (h : (Utf8.encode host).length < 2 ^ 64) (port : UInt16) :
    readHandshake (handshakeBody host port) =
      .ok { version := -1, host, port, nextState := 1 } [] := by
  have hstate := readUvarint_uvarint statusState []
  rw [List.append_nil] at hstate
  rw [readHandshake, handshakeBody, List.append_assoc, List.append_assoc,
    bind_of_ok (readVarint_varint _ _), bind_of_ok (readPrefixedString_prefixedString h _),
    bind_of_ok (readUInt16BE_append _ _), bind_of_ok hstate]
  rfl

lemma length_host_lt (h : (handshakePayload host port).length ≤ maxFrameLength) :
    (Utf8.encode host).length < 2 ^ 64 := by
  have hpart : (Utf8.encode host).length ≤ (handshakePayload host port).length := by
    simp [handshakePayload, handshakeBody, prefixedString]
    omega
  exact Nat.lt_of_le_of_lt (Nat.le_trans hpart h) (by decide)

section

variable {σ π : Type} [StreamTransport σ] [Peer π] [Carrier σ π] {field run body text extra : Bytes}
  {packetId length textLength : UInt64}

lemma settles_readFrame (h : Framed field run length) (hid : Tells run packetId body) :
    Settles (readFrame : Decoder σ Frame) readFrame (field ++ run)
      (.ok { length := length.toNat, packetId, body }) := by
  have hsettles := (settled_readFrame (σ := σ) h).settles
  rwa [readFrame_of_tells h hid] at hsettles

lemma settles_readRequest (h : (handshakePayload host port).length ≤ maxFrameLength) :
    ∃ first second, Settles (readRequest : Decoder σ (Frame × Frame)) readRequest
        (handshakeRequest host port) (.ok (first, second)) ∧
      first.packetId = handshakeId ∧ first.body = handshakeBody host port ∧
      second.packetId = handshakeId ∧ second.body = [] := by
  have hshort : (uvarint handshakeId).length ≤ maxFrameLength :=
    Nat.le_trans (length_uvarint_le _) (by decide)
  have hid : Tells (uvarint handshakeId) handshakeId [] := by
    simpa using tells_uvarint handshakeId []
  have hfirst := settles_readFrame (σ := σ) (framed_frame h) (tells_uvarint _ _)
  have hsecond := settles_readFrame (σ := σ) (framed_frame hshort) hid
  rw [handshakeRequest_eq]
  exact ⟨_, _, hfirst.bind_ok (hsecond.bind_unread (.pure _)), rfl, rfl, rfl, rfl⟩

/-! ### Statuses -/

/-- What a frame with the text of a status brings: what is parsed from just that text. -/
def parsedStatus (parse : Parser) (length : Nat) (text : Bytes) : Except Error Response :=
  match parse text with
  | .ok properties => .ok { length, packetId := handshakeId, properties }
  | .error e => .error (.json e)

lemma toExcept_readProperties (parse : Parser) (htext : Tells body textLength (text ++ extra))
    (hlength : text.length = textLength.toNat) :
    (readProperties parse body).toExcept = (parse text).mapError .json := by
  have hread : readBytes textLength.toNat (text ++ extra) = .ok text extra := by
    rw [← hlength]
    exact readBytes_append text extra
  rw [readProperties, bind_of_ok (readUvarint_eq_ok_iff_tells.mpr htext), bind_of_ok hread]
  cases parse text <;> rfl

lemma settles_readResponse (parse : Parser) (h : Framed field run length)
    (hid : Tells run handshakeId body) (htext : Tells body textLength (text ++ extra))
    (hlength : text.length = textLength.toNat) :
    Settles (readResponse parse : Decoder σ Response) (readResponse parse) (field ++ run)
      (parsedStatus parse length.toNat text) := by
  have hresult :
      (readResponse parse (field ++ run) : EStateM.Result Error Bytes Response).toExcept =
        parsedStatus parse length.toNat text := by
    rw [readResponse, bind_of_ok (readFrameOf_of_tells h hid), toExcept_bind_pure, toExcept_within,
      toExcept_readProperties parse htext hlength, parsedStatus]
    cases parse text <;> rfl
  rw [← hresult]
  exact (settled_readResponse parse h).settles

/-- The two frames of a request are read back, the first one around all that the handshake tells and
the second one around nothing; there is nothing behind them. A probe is read as a pong with its
timestamp. A status is what the parser makes of its text alone, whatever that is, however its
numbers are told and whatever comes behind the text in the frame. -/
theorem requests_read_by_servers :
    (∀ (host : String) (port : UInt16), (handshakePayload host port).length ≤ maxFrameLength →
      ∃ first second, Settles (readRequest : Decoder σ (Frame × Frame)) readRequest
          (handshakeRequest host port) (.ok (first, second)) ∧
        first.packetId = 0 ∧
        readHandshake first.body = .ok { version := -1, host, port, nextState := 1 } [] ∧
        second.packetId = 0 ∧ second.body = []) ∧
    (∀ timestamp : Int64, ∃ pong, pong.payload = timestamp ∧
      Settles (readPong : Decoder σ Pong) readPong (pingRequest timestamp) (.ok pong)) ∧
    ∀ (parse : Parser) (field run body text extra : Bytes) (length textLength : UInt64),
      Framed field run length →
      Tells run handshakeId body → Tells body textLength (text ++ extra) →
      text.length = textLength.toNat →
      Settles (readResponse parse : Decoder σ Response) (readResponse parse) (field ++ run)
        (parsedStatus parse length.toNat text) := by
  refine ⟨?_, ?_, ?_⟩
  · intro host port h
    obtain ⟨first, second, hsettles, hfirst, hbody, hsecond, hnil⟩ :=
      settles_readRequest (σ := σ) h
    refine ⟨first, second, hsettles, hfirst, ?_, hsecond, hnil⟩
    rw [hbody]
    exact readHandshake_handshakeBody (length_host_lt h) port
  · intro timestamp
    obtain ⟨pong, hread, hpayload⟩ := readPong_of_echoes (echoes_pingRequest timestamp)
    exact ⟨pong, hpayload, mirrors_readPong.settles_of_ok hread⟩
  · exact fun parse _ _ _ _ _ _ _ h hid htext hlength =>
      settles_readResponse parse h hid htext hlength

end

/-- An empty status, all of whose numbers are told with needless digits, and one more byte. -/
def longwindedStatus : Bytes := [0x87, 0x00, 0x80, 0x00, 0x82, 0x00, 0x7B, 0x7D, 0x21]

lemma framed_longwindedStatus :
    Framed (longwindedStatus.take 2) (longwindedStatus.drop 2) 7 where
  tells := tells_padded (by decide) (by decide) []
  length_eq := rfl
  length_le := by decide

theorem requests_read_by_servers_of_longwindedStatus :
    (∃ first second, (∀ x, readRequest (handshakeRequest "mc.§😀" 25565 ++ x) =
        .ok (first, second) x) ∧
      readHandshake first.body =
        .ok { version := -1, host := "mc.§😀", port := 25565, nextState := 1 } []) ∧
    ∀ x, readResponse Json.parseObject (longwindedStatus ++ x) =
      .ok { length := 7, packetId := 0, properties := [] } x := by
  obtain ⟨hrequest, -, hstatus⟩ := requests_read_by_servers (σ := Cut Traffic)
  constructor
  · obtain ⟨first, second, hsettles, -, hread, -⟩ := hrequest "mc.§😀" 25565 (by decide +kernel)
    exact ⟨first, second, hsettles.bytes, hread⟩
  · have hid : Tells (longwindedStatus.drop 2) handshakeId (longwindedStatus.drop 4) :=
      tells_padded (by decide) (by decide) _
    have htext : Tells (longwindedStatus.drop 4) 2 ([0x7B, 0x7D] ++ [0x21]) :=
      tells_padded (by decide) (by decide) _
    have hparsed : parsedStatus Json.parseObject 7 [0x7B, 0x7D] =
        .ok { length := 7, packetId := 0, properties := [] } := by with_unfolding_all rfl
    have hsettles := hstatus Json.parseObject _ _ _ _ _ _ _ framed_longwindedStatus hid htext rfl
    rw [show (7 : UInt64).toNat = 7 from rfl, hparsed] at hsettles
    exact hsettles.bytes

end GameProbe.Status
