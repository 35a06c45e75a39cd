import GameProbe.Proofs.Wire.Text
import GameProbe.Rcon.Packet
import Mathlib.Data.List.TakeWhile

/-!
# Packets read back

A packet is read back as it was written, from a string of bytes as well as over a transport. What a
server may say is a `Reply`: a packet whose text has no zero byte and whose length is within the
limits.
-/

namespace GameProbe.Rcon

open Wire

/-! ### Where a packet ends -/

lemma selfDelimiting_readLength : Decoder.SelfDelimiting readLength := by
  refine selfDelimiting_readUInt32LE.bind fun length => ?_
  split
  · exact .throw _
  · split
    · exact .throw _
    · exact .pure _

lemma selfDelimiting_readPacket : Decoder.SelfDelimiting readPacket :=
  selfDelimiting_readLength.bind fun _ => (selfDelimiting_readBytes _).bind fun run => .within run _

/-! ### Reading -/

section Reading

variable {requestId type : Int32} {length : UInt32} {payload body run rest : Bytes}
  {padding : UInt8} {p : Packet}

/-- A body is read just if it is made of the parts of the packet. -/
lemma readBody_eq_ok_iff :
    readBody length run = .ok p rest ↔
      run = int32LE p.requestId ++ int32LE p.type ++ p.payload ++ 0 :: p.padding :: rest ∧
        0 ∉ p.payload ∧ p.length = length := by
  simp only [readBody, bind_eq_ok_iff, readInt32LE_eq_ok_iff, readCstringBytes_eq_ok_iff,
    readByte_eq_ok_iff]
  constructor
  · rintro ⟨requestId, _, rfl, type, _, rfl, payload, _, ⟨rfl, hpayload⟩, padding, _, rfl, hp⟩
    cases hp
    exact ⟨by simp only [List.append_assoc], hpayload, rfl⟩
  · rintro ⟨rfl, hpayload, rfl⟩
    refine ⟨_, _, ?_, _, _, rfl, _, _, ⟨rfl, hpayload⟩, _, _, rfl, rfl⟩
    simp only [List.append_assoc]

lemma readBody_append (h : 0 ∉ payload) (length : UInt32) :
    readBody length (int32LE requestId ++ int32LE type ++ payload ++ 0 :: padding :: rest) =
      .ok { length, requestId, type, payload, padding } rest :=
  readBody_eq_ok_iff.mpr ⟨rfl, h, rfl⟩

/-- A packet is read if its parts are. -/
lemma readPacket_of_parts {σ : Type} [ByteSource σ] {s s₁ s₂ : σ} {length : UInt32} {p : Packet}
    (hmin : minPacketLength ≤ length.toNat) (hmax : length.toNat ≤ maxPacketLength)
    (hlength : readUInt32LE s = .ok length s₁) (hrun : readBytes length.toNat s₁ = .ok body s₂)
    (hbody : readBody length body = .ok p rest) : readPacket s = .ok p s₂ := by
  have hlimits : readLength s = .ok length s₁ := by
    rw [readLength, bind_of_ok hlength, if_neg (Nat.not_lt.mpr hmax), if_neg (Nat.not_lt.mpr hmin)]
    rfl
  rw [readPacket, bind_of_ok hlimits, bind_of_ok hrun]
  exact Decoder.within_eq_ok_iff.mpr ⟨⟨rest, hbody⟩, rfl⟩

lemma toNat_ofNat_length (h : body.length ≤ maxPacketLength) :
    (UInt32.ofNat body.length).toNat = body.length :=
  UInt32.toNat_ofNat_of_lt' (Nat.lt_of_le_of_lt h (by decide))

lemma readPacket_append (h : 0 ∉ payload)
    (hbody : body = int32LE requestId ++ int32LE type ++ payload ++ 0 :: padding :: rest)
    (hmax : body.length ≤ maxPacketLength) (x : Bytes) :
    readPacket (uint32LE (.ofNat body.length) ++ body ++ x) =
      .ok { length := .ofNat body.length, requestId, type, payload, padding } x := by
  have hlength := toNat_ofNat_length hmax
  have hmin : minPacketLength ≤ body.length := by
    rw [hbody, minPacketLength]
    simp
    omega
  have hrun : readBytes (UInt32.ofNat body.length).toNat (body ++ x) = .ok body x := by
    rw [hlength, readBytes_apply, if_pos (by simp), List.take_left, List.drop_left]
  rw [List.append_assoc]
  exact readPacket_of_parts (by rwa [hlength]) (by rwa [hlength]) (readUInt32LE_append _ _) hrun
    (hbody ▸ readBody_append h _)

lemma packet_ne_nil (requestId type : Int32) (text : String) : packet requestId type text ≠ [] := by
  intro h
  have := congrArg List.length h
  simp [packet] at this

lemma length_packetBody (requestId type : Int32) (text : String) :
    (packetBody requestId type text).length = (Utf8.encode text).length + minPacketLength := by
  simp [packetBody, cstring, minPacketLength]
  omega

/-- What is read of the text of a request: it ends before its first zero byte. -/
def heard (text : String) : Bytes := (Utf8.encode text).takeWhile (· ≠ 0)

lemma zero_notMem_takeWhile (text : Bytes) : 0 ∉ text.takeWhile (· ≠ 0) := by
  intro h
  simpa using List.mem_takeWhile_imp h

/-- A text ends before its first zero byte, and the byte behind that is taken for the padding. -/
lemma exists_padding (text : Bytes) : ∃ padding rest,
    text ++ [0, 0] = text.takeWhile (· ≠ 0) ++ 0 :: padding :: rest ∧
      (0 ∉ text → text.takeWhile (· ≠ 0) = text ∧ padding = 0) := by
  have htake {before : Bytes} (h : 0 ∉ before) : ∀ b ∈ before, decide (b ≠ 0) = true := by
    intro b hb
    rw [decide_eq_true_iff]
    rintro rfl
    exact h hb
  by_cases h : 0 ∈ text
  · obtain ⟨payload, more, rfl, hpayload⟩ := List.eq_append_cons_of_mem h
    obtain ⟨padding, rest, hrest⟩ : ∃ padding rest, more ++ [0, 0] = padding :: rest :=
      List.exists_cons_of_ne_nil (by simp)
    refine ⟨padding, rest, ?_, fun hnot => absurd h hnot⟩
    rw [List.takeWhile_append_of_pos (htake hpayload), List.append_assoc, List.cons_append, hrest]
    simp
  · have hall : text.takeWhile (· ≠ 0) = text := List.takeWhile_eq_self_iff.mpr (htake h)
    exact ⟨0, [], by rw [hall], fun _ => ⟨hall, rfl⟩⟩

lemma packetBody_of_text {text : String} (requestId type : Int32)
    (h : Utf8.encode text ++ [0, 0] = payload ++ 0 :: padding :: rest) :
    packetBody requestId type text =
      int32LE requestId ++ int32LE type ++ payload ++ 0 :: padding :: rest := by
  rw [packetBody, cstring, List.append_assoc _ payload, ← h]
  simp

/-- A server reads the id and the type of a request, whatever its text, and the text up to its first
zero byte. -/
lemma readPacket_packet {text : String} (requestId type : Int32)
    (h : (Utf8.encode text).length + minPacketLength ≤ maxPacketLength) :
    ∃ p, readPacket (packet requestId type text) = .ok p [] ∧ p.requestId = requestId ∧
      p.type = type ∧ p.payload = heard text := by
  obtain ⟨padding, rest, htext, -⟩ := exists_padding (Utf8.encode text)
  have hmax : (packetBody requestId type text).length ≤ maxPacketLength := by
    rwa [length_packetBody]
  have hread := readPacket_append (zero_notMem_takeWhile _)
    (packetBody_of_text requestId type htext) hmax []
  rw [List.append_nil] at hread
  exact ⟨_, hread, rfl, rfl, rfl⟩

end Reading

/-! ### Replies -/

/-- What a server may say. -/
structure Reply where
  requestId : Int32
  type : Int32 := responseType
  payload : Bytes
  padding : UInt8 := 0
  nonzero : 0 ∉ payload
  fits : payload.length + minPacketLength ≤ maxPacketLength

namespace Reply

/-- What comes behind the length. -/
def body (r : Reply) : Bytes :=
  int32LE r.requestId ++ int32LE r.type ++ r.payload ++ [0, r.padding]

/-- The reply on the wire. -/
def bytes (r : Reply) : Bytes := uint32LE (.ofNat r.body.length) ++ r.body

/-- The reply as it is read. -/
def packet (r : Reply) : Packet :=
  { length := .ofNat r.body.length, requestId := r.requestId, type := r.type, payload := r.payload,
    padding := r.padding }

lemma length_body (r : Reply) : r.body.length = r.payload.length + minPacketLength := by
  rw [body, minPacketLength]
  simp
  omega

lemma length_body_le (r : Reply) : r.body.length ≤ maxPacketLength := r.length_body ▸ r.fits

lemma bytes_ne_nil (r : Reply) : r.bytes ≠ [] := by
  intro h
  have := congrArg List.length h
  simp [bytes] at this

lemma readBody_body (r : Reply) : readBody (.ofNat r.body.length) r.body = .ok r.packet [] :=
  readBody_append r.nonzero _

lemma readPacket_bytes_append (r : Reply) (x : Bytes) :
    readPacket (r.bytes ++ x) = .ok r.packet x :=
  readPacket_append r.nonzero rfl r.length_body_le x

end Reply

end GameProbe.Rcon
