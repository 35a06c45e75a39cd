import GameProbe.Proofs.Legacy.Statuses

/-!
# Legacy requests on the other side

A request tells the number of code units of the host and the number of bytes behind that, both in 16
bits, whether they fit or not. A server that holds the request to what it tells accepts it just if
they do.
-/

namespace GameProbe.Legacy

open EStateM.Result Wire

/-! ### Servers -/

/-- What a request tells a server. -/
structure Told where
  channel : String
  protocolVersion : UInt8
  host : String
  port : UInt32

/-- A text of so many code units. -/
def readText (length : UInt16) : Decoder Bytes String :=
  return Utf16.decodeBytes (← readBytes (2 * length.toNat))

/-- What a request tells behind the number of bytes to come, which has to be right, and to agree
with the length of the host. -/
def readData (channel : String) (size : UInt16) : Decoder Bytes Told := do
  let data ← get
  if size.toNat ≠ data.length then
    throw (.malformedPacket s!"legacy ping: expected {size} bytes, got {data.length}")
  let protocolVersion ← readByte
  let length ← readUInt16BE
  if size.toNat ≠ 7 + 2 * length.toNat then
    throw (.malformedPacket s!"legacy ping: {size} bytes around a host of {length} units")
  let host ← readText length
  let port ← readUInt32BE
  return { channel, protocolVersion, host, port }

/-- A request, as a server reads it. -/
def readRequest : Decoder Bytes Told := do
  let magic ← fill 3
  if magic ≠ [0xFE, 0x01, pluginMessageId] then
    throw (.malformedPacket "legacy ping: no request")
  let channel ← readText (← readUInt16BE)
  readData channel (← readUInt16BE)

/-! ### Requests -/

variable {host : String} {port : UInt16}

/-- What stands in a request behind the number of bytes to come. -/
def requestData (host : String) (port : UInt16) : Bytes :=
  protocolVersion :: (uint16BE (.ofNat (Utf16.encode host).length) ++
    (Utf16.encodeBytes host ++ uint32BE port.toUInt32))

lemma length_requestData (host : String) (port : UInt16) :
    (requestData host port).length = 7 + 2 * (Utf16.encode host).length := by
  simp [requestData, Utf16.length_encodeBytes]
  omega

/-- So many code units are read back as their text. -/
lemma readText_encodeBytes {text : String} (hfits : (Utf16.encode text).length ≤ 0xFFFF)
    (x : Bytes) :
    readText (.ofNat (Utf16.encode text).length) (Utf16.encodeBytes text ++ x) = .ok text x := by
  rw [readText, bind_of_ok (readBytes_encodeBytes hfits x), Utf16.decodeBytes_encodeBytes]
  rfl

/-- A server gets to the data of every request. -/
lemma readRequest_request (host : String) (port : UInt16) :
    readRequest (request host port .pingHost) =
      readData channel (.ofNat (requestData host port).length) (requestData host port) := by
  have hrequest : request host port .pingHost = [0xFE, 0x01, pluginMessageId] ++
      (uint16BE (.ofNat (Utf16.encode channel).length) ++ (Utf16.encodeBytes channel ++
        (uint16BE (.ofNat (requestData host port).length) ++ requestData host port))) := by
    rw [length_requestData]
    simp [request, pluginMessage, requestData, Utf16.encodeBytes]
  have hmagic : [0xFE, 0x01, pluginMessageId].length = 3 := rfl
  rw [hrequest, readRequest, bind_of_ok (fill_append hmagic _), if_neg (not_not_intro rfl)]
  dsimp only
  rw [bind_of_ok (readUInt16BE_append _ _), bind_of_ok (readText_encodeBytes (by decide) _),
    bind_of_ok (readUInt16BE_append _ _)]

lemma readData_requestData (channel : String) (h : (requestData host port).length ≤ 0xFFFF) :
    readData channel (.ofNat (requestData host port).length) (requestData host port) =
      .ok { channel, protocolVersion, host, port := port.toUInt32 } [] := by
  have hsize : (UInt16.ofNat (requestData host port).length).toNat =
      (requestData host port).length :=
    UInt16.toNat_ofNat_of_lt' (Nat.lt_succ_of_le h)
  have hlength := length_requestData host port
  have hhost : (Utf16.encode host).length ≤ 0xFFFF := by omega
  have hunits : (UInt16.ofNat (Utf16.encode host).length).toNat = (Utf16.encode host).length :=
    UInt16.toNat_ofNat_of_lt' (Nat.lt_succ_of_le hhost)
  have hport := readUInt32BE_append port.toUInt32 []
  rw [List.append_nil] at hport
  rw [readData, get_bind_apply, hsize, if_neg (not_not_intro rfl)]
  dsimp only
  rw [requestData, bind_of_ok (readByte_cons _ _), bind_of_ok (readUInt16BE_append _ _), hunits,
    ← requestData, if_neg (not_not_intro hlength), bind_of_ok (readText_encodeBytes hhost _),
    bind_of_ok hport]
  rfl

/-- More bytes than 16 bits can tell are not as many as they tell. -/
lemma readData_of_long {data : Bytes} (channel : String) (h : 0xFFFF < data.length) :
    ∃ e, readData channel (.ofNat data.length) data = .error e data := by
  have hsize := (UInt16.ofNat data.length).toNat_lt
  have hne : (UInt16.ofNat data.length).toNat ≠ data.length := by omega
  rw [readData, get_bind_apply, if_pos hne]
  exact ⟨_, rfl⟩

/-- A server that takes a request at its word accepts it, and reads what it is about, just if the
host has at most 32764 code units: then the number of bytes behind the channel is told right. -/
theorem request_read_iff (host : String) (port : UInt16) :
    (readRequest (request host port .pingHost) =
        .ok { channel, protocolVersion, host, port := port.toUInt32 } [] ↔
      (Utf16.encode host).length ≤ 32764) ∧
    ((∃ told rest, readRequest (request host port .pingHost) = .ok told rest) ↔
      (Utf16.encode host).length ≤ 32764) := by
  have hlength := length_requestData host port
  rw [readRequest_request]
  by_cases h : (Utf16.encode host).length ≤ 32764
  · rw [readData_requestData channel (by omega)]
    simp [h]
  · -- what is told may be at one with itself again, but not with the bytes that come
    obtain ⟨e, he⟩ := readData_of_long channel (by omega : 0xFFFF < (requestData host port).length)
    rw [he]
    simp [h]

end GameProbe.Legacy
