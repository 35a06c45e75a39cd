import GameProbe.Bedrock.Pong
import GameProbe.Proofs.Wire.Text

/-!
# The two framings of a pong

The variants tell the length of a status text in two ways, two bytes or a varint behind one more
byte. What is read is the same for both. Neither looks at the text if the magic bytes are not there.
-/

namespace GameProbe.Bedrock

open Wire

/-! ### Servers -/

/-- The beginning of a pong, with any bytes where the magic ones should be. -/
def pongHead (timestamp serverGuid : UInt64) (magic : Bytes) : Bytes :=
  pongId :: (uint64BE timestamp ++ uint64BE serverGuid ++ magic)

/-- What tells the length of a text in front of it. The byte before a varint may be any. -/
def Variant.announcement (framing : UInt8) (length : Nat) : Variant → Bytes
  | .ping => uint16BE (.ofNat length)
  | .stat => framing :: uvarint (.ofNat length)

/-- A pong on the wire. -/
def Variant.pong (framing : UInt8) (timestamp serverGuid : UInt64) (status : String)
    (variant : Variant) : Bytes :=
  pongHead timestamp serverGuid magic ++
    variant.announcement framing (Utf8.encode status).length ++ Utf8.encode status

/-! ### Pongs -/

variable {length : Nat} {status : String} {wrongMagic : Bytes}

/-- A length that fits two bytes is told by both variants. -/
lemma readLength_announcement (h : length ≤ 0xFFFF) (framing : UInt8) (variant : Variant)
    (x : Bytes) :
    variant.readLength (variant.announcement framing length ++ x) = .ok length x := by
  cases variant with
  | ping =>
    have hback : (UInt16.ofNat length).toNat = length :=
      UInt16.toNat_ofNat_of_lt' (Nat.lt_succ_of_le h)
    rw [Variant.readLength, Variant.announcement, bind_of_ok (readUInt16BE_append _ x), hback]
    rfl
  | stat =>
    have hback : (UInt64.ofNat length).toNat = length :=
      UInt64.toNat_ofNat_of_lt' (Nat.lt_of_le_of_lt h (by decide))
    rw [Variant.readLength, Variant.announcement, List.cons_append,
      bind_of_ok (readByte_cons framing _), bind_of_ok (readUvarint_uvarint _ x), hback]
    rfl

/-- The bytes in the place of the magic ones decide whether a text is looked for. -/
lemma readPong_pongHead {bytes : Bytes} (h : bytes.length = 16) (timestamp serverGuid : UInt64)
    (variant : Variant) (x : Bytes) :
    readPong variant (pongHead timestamp serverGuid bytes ++ x) =
      if bytes ≠ magic then .error .badMagic x
      else (do
        let text ← readBytes (← variant.readLength)
        return { packetId := pongId, timestamp, serverGuid, magic := bytes,
                 status := Utf8.decodeLossy text } : Decoder Bytes Pong) x := by
  rw [readPong, pongHead, List.cons_append, List.append_assoc, List.append_assoc,
    bind_of_ok (readByte_cons _ _), if_neg (fun hid => hid rfl)]
  dsimp only
  rw [bind_of_ok (readUInt64BE_append _ _), bind_of_ok (readUInt64BE_append _ _),
    bind_of_ok (fill_append h x)]
  split <;> rfl

lemma readPong_of_wrongMagic (h : wrongMagic.length = 16) (hne : wrongMagic ≠ magic)
    (timestamp serverGuid : UInt64) (variant : Variant) (x : Bytes) :
    readPong variant (pongHead timestamp serverGuid wrongMagic ++ x) = .error .badMagic x := by
  rw [readPong_pongHead h, if_pos hne]

lemma readPong_pong (h : (Utf8.encode status).length ≤ 0xFFFF) (framing : UInt8)
    (timestamp serverGuid : UInt64) (variant : Variant) (x : Bytes) :
    readPong variant (variant.pong framing timestamp serverGuid status ++ x) =
      .ok { packetId := pongId, timestamp, serverGuid, magic, status } x := by
  rw [Variant.pong, List.append_assoc, List.append_assoc, readPong_pongHead rfl,
    if_neg (fun hmagic => hmagic rfl), bind_of_ok (readLength_announcement h framing variant _),
    bind_of_ok (readBytes_append _ x), Utf8.decodeLossy_encode]
  rfl

/-- Both variants read the same from a pong, each from its own framing of it and whatever byte comes
before the varint: just the timestamp, the guid and the text that a server tells, in at most as many
bytes as two bytes can count. So they read the same status from it. What follows the pong is left.
With other bytes in the place of the magic ones both fail there, whatever follows. -/
theorem framings_tell_same (timestamp serverGuid : UInt64) (x : Bytes) :
    (∀ status : String, (Utf8.encode status).length ≤ 0xFFFF →
      ∃ pong : Pong, pong.timestamp = timestamp ∧ pong.serverGuid = serverGuid ∧
        pong.status = status ∧
        ∀ (framing : UInt8) (variant : Variant),
          readPong variant (variant.pong framing timestamp serverGuid status ++ x) =
            .ok pong x) ∧
    ∀ wrongMagic : Bytes, wrongMagic.length = 16 → wrongMagic ≠ magic → ∀ variant,
      readPong variant (pongHead timestamp serverGuid wrongMagic ++ x) = .error .badMagic x := by
  constructor
  · intro status h
    refine ⟨{ packetId := pongId, timestamp, serverGuid, magic, status }, rfl, rfl, rfl, ?_⟩
    exact fun framing variant => readPong_pong h framing timestamp serverGuid variant x
  · exact fun wrongMagic h hne variant =>
      readPong_of_wrongMagic h hne timestamp serverGuid variant x

/-- A text of so many snowmen. -/
def snowmen (n : Nat) : String := String.ofList (.replicate n '☃')

lemma length_snowmen (n : Nat) : (Utf8.encode (snowmen n)).length = 3 * n := by
  have hchar : (Utf8.encodeChar '☃').length = 3 := by decide
  rw [snowmen, Utf8.encode, String.toList_ofList, List.length_flatMap, List.map_replicate, hchar,
    List.sum_replicate_nat, Nat.mul_comm]

/-- The length of so many snowmen takes a varint of three bytes. -/
theorem framings_tell_same_of_snowmen :
    (∃ pong, pong.status = snowmen 6000 ∧
      readPong .ping (Variant.ping.pong 0 7 (0 - 1) (snowmen 6000) ++ [0x1C]) = .ok pong [0x1C] ∧
      readPong .stat (Variant.stat.pong 0xFF 7 (0 - 1) (snowmen 6000) ++ [0x1C]) =
        .ok pong [0x1C]) ∧
    readPong .stat (pongHead 7 (0 - 1) (magic.drop 1 ++ [0]) ++ [0x1C]) =
      .error .badMagic [0x1C] := by
  obtain ⟨hpong, hmagic⟩ := framings_tell_same 7 (0 - 1) [0x1C]
  have hfits : (Utf8.encode (snowmen 6000)).length ≤ 0xFFFF := by
    rw [length_snowmen]
    decide
  obtain ⟨pong, -, -, hstatus, hread⟩ := hpong _ hfits
  exact ⟨⟨pong, hstatus, hread 0 .ping, hread 0xFF .stat⟩, hmagic _ (by decide) (by decide) .stat⟩

end GameProbe.Bedrock
