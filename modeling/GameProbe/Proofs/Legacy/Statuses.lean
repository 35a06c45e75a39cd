import GameProbe.Proofs.Legacy.Split
import GameProbe.Proofs.Text.Decimal
import GameProbe.Proofs.Wire.Text

/-!
# Legacy statuses read back

What a server of either age tells in a kick packet is what is read from it: the fields that newer
servers part by zeros and the ones that older servers part by section signs. No older status is
taken for a newer one, not even one that begins with a section sign.
-/

namespace GameProbe.Legacy

open Wire

/-! ### Servers -/

/-- A kick packet with the code units of a text. -/
def kickUnits (units : List UInt16) : Bytes :=
  kickId :: uint16BE (.ofNat units.length) ++ units.flatMap Utf16.unitBytes

/-- A kick packet with a text. -/
def kickPacket (text : String) : Bytes := kickUnits (Utf16.encode text)

/-- What a newer server tells. -/
def newerText (version : Int32) (game motd : String) (online limit : Int32) : String :=
  "§1\x00" ++ "\x00".intercalate
    [Decimal.ofInt32 version, game, motd, Decimal.ofInt32 online, Decimal.ofInt32 limit]

/-- What an older server tells. -/
def olderText (motd : String) (online limit : Int32) : String :=
  "§".intercalate [motd, Decimal.ofInt32 online, Decimal.ofInt32 limit]

/-! ### Fields -/

variable {version online limit n : Int32} {game motd text : String}

lemma numberField_ofInt32 (name : String) (n : Int32) :
    numberField name (Utf16.encodeBytes (Decimal.ofInt32 n)) = .ok n := by
  rw [numberField, Utf16.decodeBytes_encodeBytes]
  simp only [Decimal.int32?_ofInt32]

/-- Texts without a character of one unit are cut again where it joins them. -/
lemma splitFields_encodeBytes_intercalate {separator : String} {c : Char} {unit : UInt16}
    {parts : List String} (hseparator : Utf16.encode separator = [unit])
    (hunit : c.toNat.toUInt16 = unit) (hc : c.toNat < 0xD800) (hparts : parts ≠ [])
    (h : ∀ part ∈ parts, c ∉ part.toList) :
    splitFields (Utf16.unitBytes unit) (Utf16.encodeBytes (separator.intercalate parts)) =
      parts.map Utf16.encodeBytes := by
  have hsplit : (Utf16.encode (separator.intercalate parts)).splitOn unit =
      parts.map Utf16.encode := by
    rw [Utf16.encode_intercalate, hseparator, List.splitOn_intercalate]
    · rw [List.forall_mem_map, ← hunit]
      exact fun part hpart => Utf16.notMem_encode hc (h part hpart)
    · exact mt List.map_eq_nil_iff.mp hparts
  rw [Utf16.encodeBytes, splitFields_flatMap_unitBytes, hsplit, List.map_map]
  rfl

/-! ### Statuses -/

lemma ofText_newerText (length : UInt16) (hgame : '\x00' ∉ game.toList)
    (hmotd : '\x00' ∉ motd.toList) :
    Response.ofText length (Utf16.encodeBytes (newerText version game motd online limit)) =
      .ok { packetId := kickId, length, protocolVersion := some version, gameVersion := some game
            motd, onlinePlayers := online, maxPlayers := limit } := by
  have hnumber (n : Int32) : '\x00' ∉ (Decimal.ofInt32 n).toList :=
    Decimal.notMem_ofInt32 (by decide) (by decide) n
  have hzero : Utf16.encode "\x00" = [0] := by decide
  have hparts : ∀ part ∈ [Decimal.ofInt32 version, game, motd, Decimal.ofInt32 online,
      Decimal.ofInt32 limit], '\x00' ∉ part.toList := by simp [*]
  have hfields := splitFields_encodeBytes_intercalate hzero rfl (by decide) (List.cons_ne_nil _ _)
    hparts
  have hmarker : Utf16.encodeBytes "§1\x00" = marker := by decide
  have hbytes : Utf16.encodeBytes (newerText version game motd online limit) = marker ++
      Utf16.encodeBytes ("\x00".intercalate [Decimal.ofInt32 version, game, motd,
        Decimal.ofInt32 online, Decimal.ofInt32 limit]) := by
    rw [newerText, ← hmarker, Utf16.encodeBytes, Utf16.encode_append, List.flatMap_append]
    rfl
  have hprefix : marker.isPrefixOf
      (Utf16.encodeBytes (newerText version game motd online limit)) := by
    rw [hbytes, List.isPrefixOf_iff_prefix]
    exact List.prefix_append ..
  rw [Response.ofText, if_pos hprefix, newerDelimiter_eq]
  simp only [hbytes, List.drop_left, hfields]
  simp only [List.map_cons, List.map_nil, numberField_ofInt32, Utf16.decodeBytes_encodeBytes]
  rfl

/-- The section sign that an older status may begin with is not followed by a one and a zero. -/
lemma not_marker_olderText (hmotd : '§' ∉ motd.toList) :
    ¬markerUnits <+: Utf16.encode (olderText motd online limit) := by
  have hsection : Utf16.encode "§" = [0xA7] := by decide
  have hzero (n : Int32) : 0 ∉ Utf16.encode (Decimal.ofInt32 n) :=
    Utf16.notMem_encode (by decide) (Decimal.notMem_ofInt32 (c := '\x00') (by decide) (by decide) n)
  have hunits : Utf16.encode (olderText motd online limit) = Utf16.encode motd ++ [0xA7] ++
      (Utf16.encode (Decimal.ofInt32 online) ++ [0xA7] ++
        Utf16.encode (Decimal.ofInt32 limit)) := by
    rw [olderText, Utf16.encode_intercalate, hsection]
    simp [List.intercalate_cons_cons]
  rw [hunits]
  intro hprefix
  cases h : Utf16.encode motd with
  | nil =>
    -- the marker has a zero, and nothing that follows an empty text has
    have hmem := hprefix.subset (by decide : (0 : UInt16) ∈ markerUnits)
    rw [h] at hmem
    simp [hzero] at hmem
  | cons unit units =>
    -- the text would have to begin with a section sign
    rw [h, markerUnits, List.cons_append, List.cons_append, List.cons_prefix_cons] at hprefix
    refine Utf16.notMem_encode (by decide : '§'.toNat < 0xD800) hmotd ?_
    rw [h, ← hprefix.1]
    exact List.mem_cons_self

lemma ofText_olderText (length : UInt16) (hmotd : '§' ∉ motd.toList) :
    Response.ofText length (Utf16.encodeBytes (olderText motd online limit)) =
      .ok { packetId := kickId, length, protocolVersion := none, gameVersion := none, motd
            onlinePlayers := online, maxPlayers := limit } := by
  have hnumber (n : Int32) : '§' ∉ (Decimal.ofInt32 n).toList :=
    Decimal.notMem_ofInt32 (by decide) (by decide) n
  have hsection : Utf16.encode "§" = [0xA7] := by decide
  have hparts : ∀ part ∈ [motd, Decimal.ofInt32 online, Decimal.ofInt32 limit],
      '§' ∉ part.toList := by simp [*]
  have hfields := splitFields_encodeBytes_intercalate hsection rfl (by decide)
    (List.cons_ne_nil _ _) hparts
  have hprefix : ¬marker.isPrefixOf (Utf16.encodeBytes (olderText motd online limit)) := by
    rw [List.isPrefixOf_iff_prefix, marker_eq, Utf16.encodeBytes, flatMap_unitBytes_prefix_iff]
    exact not_marker_olderText hmotd
  rw [Response.ofText, if_neg hprefix, olderDelimiter_eq]
  simp only [olderText, hfields]
  simp only [List.map_cons, List.map_nil, numberField_ofInt32, Utf16.decodeBytes_encodeBytes]
  rfl

/-- The code units of a text are found by their number. -/
lemma readBytes_encodeBytes (hfits : (Utf16.encode text).length ≤ 0xFFFF) (x : Bytes) :
    readBytes (2 * (UInt16.ofNat (Utf16.encode text).length).toNat) (Utf16.encodeBytes text ++ x) =
      .ok (Utf16.encodeBytes text) x := by
  rw [UInt16.toNat_ofNat_of_lt' (Nat.lt_succ_of_le hfits), ← Utf16.length_encodeBytes]
  exact readBytes_append _ x

/-- A packet is read if its text is understood, and what follows it is left. -/
lemma readResponse_kickPacket {response : Response} (hfits : (Utf16.encode text).length ≤ 0xFFFF)
    (h : Response.ofText (.ofNat (Utf16.encode text).length) (Utf16.encodeBytes text) =
      .ok response) (x : Bytes) :
    readResponse (kickPacket text ++ x) = .ok response x := by
  rw [readResponse, kickPacket, kickUnits, List.append_assoc, List.cons_append,
    bind_of_ok (readByte_cons _ _),
    if_neg (fun h => h rfl)]
  dsimp only
  have hrun := readBytes_encodeBytes hfits x
  rw [Utf16.encodeBytes] at h hrun
  rw [bind_of_ok (readUInt16BE_append _ _), bind_of_ok hrun, h]
  rfl

/-- What a server of either age tells, in at most as many code units as a packet can tell of, is
what is read, and what follows the packet is left. A text of a newer server must not hold the zero
that parts its fields, and a text of an older one not the section sign. -/
theorem statuses_read_back (online limit : Int32) (motd : String) (x : Bytes) :
    (∀ version game, '\x00' ∉ game.toList → '\x00' ∉ motd.toList →
      (Utf16.encode (newerText version game motd online limit)).length ≤ 0xFFFF →
      readResponse (kickPacket (newerText version game motd online limit) ++ x) =
        .ok { packetId := kickId
              length := .ofNat (Utf16.encode (newerText version game motd online limit)).length
              protocolVersion := some version, gameVersion := some game, motd
              onlinePlayers := online, maxPlayers := limit } x) ∧
    ('§' ∉ motd.toList → (Utf16.encode (olderText motd online limit)).length ≤ 0xFFFF →
      readResponse (kickPacket (olderText motd online limit) ++ x) =
        .ok { packetId := kickId
              length := .ofNat (Utf16.encode (olderText motd online limit)).length
              protocolVersion := none, gameVersion := none, motd
              onlinePlayers := online, maxPlayers := limit } x) := by
  constructor
  · intro version game hgame hmotd hfits
    exact readResponse_kickPacket hfits (ofText_newerText _ hgame hmotd) x
  · intro hmotd hfits
    exact readResponse_kickPacket hfits (ofText_olderText _ hmotd) x

/-- Zero bytes that straddle two code units and a character of two units on the one hand, a text
that begins with a section sign and a one on the other. -/
theorem statuses_read_back_of_odd_texts :
    readResponse (kickPacket (newerText (-1) "" "Ā1😀§" (-0x80000000) 0x7FFFFFFF) ++ [0, 0]) =
      .ok { packetId := 0xFF, length := 35, protocolVersion := some (-1), gameVersion := some ""
            motd := "Ā1😀§", onlinePlayers := -0x80000000, maxPlayers := 0x7FFFFFFF } [0, 0] ∧
    readResponse (kickPacket (olderText "" 1 20) ++ [0, 0]) =
      .ok { packetId := 0xFF, length := 5, protocolVersion := none, gameVersion := none, motd := ""
            onlinePlayers := 1, maxPlayers := 20 } [0, 0] := by
  constructor
  · exact (statuses_read_back _ _ _ _).1 _ _ (by decide) (by decide) (by decide)
  · exact (statuses_read_back _ _ _ _).2 (by decide) (by decide)

end GameProbe.Legacy
