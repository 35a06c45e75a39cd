import GameProbe.Proofs.Framing

/-!
# Which packets are accepted

A text may hold the zero byte that is to end it. Then less of it is read than was written, but the
packet still ends where its length says. A packet is accepted just if its length is within the
limits and there is a zero byte in its text, with a byte behind it.
-/

namespace GameProbe.Rcon

open EStateM.Result Decoder Wire

/-! ### Bodies -/

section

variable {length : UInt32} {run : Bytes}

lemma exists_int32LE (h : 4 ≤ run.length) : ∃ n, run = int32LE n ++ run.drop 4 := by
  have hread := readInt32LE_apply run
  rw [if_pos h] at hread
  exact ⟨_, readInt32LE_eq_ok_iff.mp hread⟩

/-- Two numbers and a zero byte that is not the last make a body of any bytes. -/
lemma exists_readBody_iff :
    (∃ p rest, readBody length run = .ok p rest) ↔ 0 ∈ (run.drop 8).dropLast := by
  simp only [readBody_eq_ok_iff]
  constructor
  · rintro ⟨p, rest, rfl, -, -⟩
    have hnumbers : (int32LE p.requestId ++ int32LE p.type).length = 8 := by simp
    rw [List.append_assoc _ p.payload, List.drop_left' hnumbers]
    simp
  · intro h
    have hne : run.drop 8 ≠ [] := by
      intro hnil
      rw [hnil] at h
      exact List.not_mem_nil h
    have hlength : 8 < run.length := by rwa [ne_eq, List.drop_eq_nil_iff, Nat.not_le] at hne
    have hlength' : 4 ≤ (run.drop 4).length := by
      rw [List.length_drop]
      omega
    obtain ⟨requestId, hid⟩ := exists_int32LE (by omega : 4 ≤ run.length)
    obtain ⟨type, htype⟩ := exists_int32LE hlength'
    rw [List.drop_drop] at htype
    obtain ⟨payload, more, htext, hpayload⟩ := List.eq_append_cons_of_mem h
    -- whatever comes last is not taken for the zero byte, so there is a padding
    obtain ⟨padding, rest, hrest⟩ :=
      List.exists_cons_of_ne_nil (List.concat_ne_nil ((run.drop 8).getLast hne) more)
    refine ⟨{ length, requestId, type, payload, padding }, rest, ?_, hpayload, rfl⟩
    calc run
      _ = int32LE requestId ++ (int32LE type ++ run.drop 8) := by rw [← htype, ← hid]
      _ = int32LE requestId ++ (int32LE type ++
          (payload ++ 0 :: more ++ [(run.drop 8).getLast hne])) := by
        rw [← htext, List.dropLast_concat_getLast]
      _ = int32LE requestId ++ int32LE type ++ payload ++ 0 :: padding :: rest := by
        rw [← hrest]
        simp

end

/-! ### Texts with zero bytes -/

/-- The packet as it is read back: its text ends before the first zero byte, and the byte behind
that is the padding. -/
structure ReadBack (requestId type : Int32) (text : String) (p : Packet) : Prop where
  length_eq : p.length.toNat = (Utf8.encode text).length + minPacketLength
  requestId_eq : p.requestId = requestId
  type_eq : p.type = type
  payload_eq : p.payload = (Utf8.encode text).takeWhile (· ≠ 0)
  padding_eq : (packet requestId type text)[13 + p.payload.length]? = some p.padding
  whole : 0 ∉ Utf8.encode text → p.payload = Utf8.encode text ∧ p.padding = 0

section

variable {requestId type : Int32} {text : String} {payload rest : Bytes} {padding : UInt8}

lemma toNat_length_packetBody (requestId type : Int32)
    (h : (Utf8.encode text).length + minPacketLength < 2 ^ 32) :
    (UInt32.ofNat (packetBody requestId type text).length).toNat =
      (packetBody requestId type text).length :=
  UInt32.toNat_ofNat_of_lt' (by rwa [length_packetBody])

/-- The padding comes behind the length, two numbers, the text that is read and a zero byte. -/
lemma getElem?_packet (h : Utf8.encode text ++ [0, 0] = payload ++ 0 :: padding :: rest) :
    (packet requestId type text)[13 + payload.length]? = some padding := by
  have hpacket : packet requestId type text =
      uint32LE (.ofNat (packetBody requestId type text).length) ++ int32LE requestId ++
        int32LE type ++ payload ++ [0] ++ padding :: rest := by
    rw [packet]
    simp [packetBody_of_text requestId type h]
  have hfront : (uint32LE (.ofNat (packetBody requestId type text).length) ++ int32LE requestId ++
      int32LE type ++ payload ++ [0]).length = 13 + payload.length := by
    simp
    omega
  rw [hpacket, ← hfront, List.getElem?_append_right (Nat.le_refl _), Nat.sub_self]
  rfl

lemma exists_readBody_packetBody (requestId type : Int32)
    (h : (Utf8.encode text).length + minPacketLength < 2 ^ 32) :
    ∃ p rest, readBody (.ofNat (packetBody requestId type text).length)
      (packetBody requestId type text) = .ok p rest ∧ ReadBack requestId type text p := by
  obtain ⟨padding, rest, htext, hwhole⟩ := exists_padding (Utf8.encode text)
  refine ⟨{ length := .ofNat (packetBody requestId type text).length, requestId, type,
            payload := (Utf8.encode text).takeWhile (· ≠ 0), padding }, rest, ?_, ?_⟩
  · exact readBody_eq_ok_iff.mpr
      ⟨packetBody_of_text requestId type htext, zero_notMem_takeWhile _, rfl⟩
  · refine ⟨?_, rfl, rfl, rfl, getElem?_packet htext, hwhole⟩
    exact (toNat_length_packetBody requestId type h).trans (length_packetBody requestId type text)

end

/-! ### Packets -/

section

variable {σ π : Type} [StreamTransport σ] [Peer π] [Carrier σ π]

lemma settles_readPacket_packet (requestId type : Int32) {text : String}
    (h : (Utf8.encode text).length + minPacketLength ≤ maxPacketLength) :
    ∃ p, Settles (readPacket : Decoder σ Packet) readPacket (packet requestId type text) (.ok p) ∧
      ReadBack requestId type text p := by
  have hlt : (Utf8.encode text).length + minPacketLength < 2 ^ 32 :=
    Nat.lt_of_le_of_lt h (by decide)
  obtain ⟨p, rest, hread, hp⟩ := exists_readBody_packetBody requestId type hlt
  have hlength := toNat_length_packetBody requestId type hlt
  have hframed : Framed (.ofNat (packetBody requestId type text).length)
      (packetBody requestId type text) := by
    refine ⟨hlength.symm, ?_, ?_⟩
    · rw [hlength, length_packetBody]
      exact Nat.le_add_left _ _
    · rwa [hlength, length_packetBody]
  have hsettles := settles_readPacket (σ := σ) hframed
  rw [hread] at hsettles
  exact ⟨p, hsettles, hp⟩

lemma exists_readPacket_iff {length : UInt32} {run : Bytes} (hrun : run.length = length.toNat)
    (x : Bytes) :
    (∃ p rest, readPacket (uint32LE length ++ run ++ x) = .ok p rest) ↔
      minPacketLength ≤ length.toNat ∧ length.toNat ≤ maxPacketLength ∧
        0 ∈ (run.drop 8).dropLast := by
  by_cases hshort : length.toNat < minPacketLength
  · rw [List.append_assoc, (settles_readPacket_of_short (σ := Cut Traffic) hshort).exists_ok_iff]
    simp [Nat.not_le.mpr hshort]
  by_cases hlong : maxPacketLength < length.toNat
  · rw [List.append_assoc, (settles_readPacket_of_long (σ := Cut Traffic) hlong).exists_ok_iff]
    simp [Nat.not_le.mpr hlong]
  have hframed : Framed length run := ⟨hrun, Nat.not_lt.mp hshort, Nat.not_lt.mp hlong⟩
  rw [(settles_readPacket (σ := Cut Traffic) hframed).exists_ok_iff,
    ← @exists_readBody_iff length]
  cases readBody length run with
  | ok p rest => simp [hframed.le_length, hframed.length_le]
  | error e rest => simp

/-- The length of a packet is the number of bytes behind it. A packet whose text fits is read back
up to the first zero byte of the text, and yet to its end; one whose text does not fit is too large.
Of the packets that have come whole, those are accepted that have a length within the limits and,
behind two numbers, a zero byte that is not the last byte. -/
theorem packets_read_up_to_zero :
    (∀ (requestId type : Int32) (text : String),
      (Utf8.encode text).length + minPacketLength < 2 ^ 32 →
      ∃ (length : UInt32) (body : Bytes), packet requestId type text = uint32LE length ++ body ∧
        length.toNat = body.length ∧
        body.length = (Utf8.encode text).length + minPacketLength ∧
        ((Utf8.encode text).length + minPacketLength ≤ maxPacketLength →
          ∃ p, Settles (readPacket : Decoder σ Packet) readPacket (packet requestId type text)
              (.ok p) ∧ ReadBack requestId type text p) ∧
        (maxPacketLength < (Utf8.encode text).length + minPacketLength →
          Settles (readPacket : Decoder σ Packet) readPacket (uint32LE length)
            (.error (.frameTooLarge length.toNat maxPacketLength)))) ∧
    ∀ (length : UInt32) (run x : Bytes), run.length = length.toNat →
      ((∃ p rest, readPacket (uint32LE length ++ run ++ x) = .ok p rest) ↔
        minPacketLength ≤ length.toNat ∧ length.toNat ≤ maxPacketLength ∧
          0 ∈ (run.drop 8).dropLast) := by
  constructor
  · intro requestId type text hlt
    have hlength := toNat_length_packetBody requestId type hlt
    refine ⟨_, packetBody requestId type text, rfl, hlength, length_packetBody _ _ _, ?_, ?_⟩
    · exact settles_readPacket_packet requestId type
    · intro hlong
      rw [← length_packetBody requestId type, ← hlength] at hlong
      exact settles_readPacket_of_long hlong
  · exact fun length run x hrun => exists_readPacket_iff hrun x

end

/-- A text with a zero byte is read up to that, and the byte behind it is the padding. Ten zero
bytes are a packet. -/
theorem packets_read_up_to_zero_of_parted_text :
    (∃ p, (∀ x, readPacket (packet (-1) 2 "§\x00bc" ++ x) = .ok p x) ∧ p.length.toNat = 15 ∧
      p.requestId = -1 ∧ p.payload = [0xC2, 0xA7] ∧ p.padding = 0x62) ∧
    ∃ p rest, readPacket (uint32LE 10 ++ .replicate 10 0 ++ [7]) = .ok p rest := by
  obtain ⟨htext, hrun⟩ := packets_read_up_to_zero (σ := Cut Traffic)
  constructor
  · obtain ⟨length, body, -, -, -, hfits, -⟩ := htext (-1) 2 "§\x00bc" (by decide)
    obtain ⟨p, hsettles, hp⟩ := hfits (by decide)
    have hpayload : p.payload = [0xC2, 0xA7] := hp.payload_eq.trans (by decide)
    have hpadding := hp.padding_eq
    rw [hpayload] at hpadding
    refine ⟨p, hsettles.bytes, hp.length_eq.trans (by decide), hp.requestId_eq, hpayload, ?_⟩
    exact Option.some.inj (hpadding.symm.trans (by decide))
  · exact (hrun 10 (.replicate 10 0) [7] rfl).mpr (by decide)

end GameProbe.Rcon
