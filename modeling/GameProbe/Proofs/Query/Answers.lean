import GameProbe.Proofs.Text.Decimal
import GameProbe.Proofs.Wire.Text
import GameProbe.Query.Message
import Mathlib.Data.List.Induction

/-!
# Query answers read back

What a server tells in an answer is what is read from it, whatever bytes follow. The properties of
a full stat are the exception: a key that a server sends again keeps its place, and of its values
the last one counts.
-/

namespace GameProbe.Query

open Wire

/-! ### Servers -/

/-- The beginning of every answer on the wire. -/
def answerHeader (kind : Kind) (session : UInt32) : Bytes := kind.code :: uint32BE session

/-- A challenge token on the wire. -/
def handshakeAnswer (session : UInt32) (token : Int32) : Bytes :=
  answerHeader .handshake session ++ cstring (Decimal.ofInt32 token)

/-- A basic stat on the wire. -/
def basicAnswer (session : UInt32) (stat : BasicStat) : Bytes :=
  answerHeader .stat session ++ cstring stat.motd ++ cstring stat.gameType ++ cstring stat.map ++
    cstring (Decimal.ofInt32 stat.onlinePlayers) ++ cstring (Decimal.ofInt32 stat.maxPlayers) ++
    littleEndian 2 stat.hostPort.toNat ++ cstring stat.hostIp

/-- A full stat on the wire: a marker, the properties, another marker and the players. -/
def fullAnswer (session : UInt32) (propertyMarker : Bytes) (pairs : List (String × String))
    (playerMarker : Bytes) (players : List String) : Bytes :=
  answerHeader .stat session ++
    propertyMarker ++ pairs.flatMap (fun pair => cstring pair.1 ++ cstring pair.2) ++ cstring "" ++
    playerMarker ++ players.flatMap cstring ++ cstring ""

/-! ### Fields -/

variable {key value name : String}

lemma readHeader_answerHeader (kind : Kind) (session : UInt32) (x : Bytes) :
    readHeader kind (answerHeader kind session ++ x) =
      .ok { packetType := kind.code, session } x := by
  rw [readHeader, answerHeader, List.cons_append, bind_of_ok (readByte_cons _ _),
    if_neg (fun h => h rfl)]
  exact bind_of_ok (readUInt32BE_append session x)

lemma readNumber_ofInt32 (field : String) (n : Int32) (x : Bytes) :
    readNumber field (cstring (Decimal.ofInt32 n) ++ x) = .ok n x := by
  have htext : '\x00' ∉ (Decimal.ofInt32 n).toList :=
    Decimal.notMem_ofInt32 (by decide) (by decide) n
  rw [readNumber, bind_of_ok (readCstring_cstring htext x)]
  simp only [Decimal.int32?_ofInt32]
  rfl

lemma readProperty_append (hne : key ≠ "") (hkey : '\x00' ∉ key.toList)
    (hvalue : '\x00' ∉ value.toList) (x : Bytes) :
    readProperty (cstring key ++ cstring value ++ x) = .ok (some (key, value)) x := by
  rw [readProperty, List.append_assoc, bind_of_ok (readCstring_cstring hkey _),
    if_neg (by rwa [String.isEmpty_iff])]
  exact bind_of_ok (readCstring_cstring hvalue x)

lemma readProperty_end (x : Bytes) : readProperty (cstring "" ++ x) = .ok none x := by
  rw [readProperty, bind_of_ok (readCstring_cstring (by decide) x)]
  rfl

lemma readPlayer_append (hne : name ≠ "") (hname : '\x00' ∉ name.toList) (x : Bytes) :
    readPlayer (cstring name ++ x) = .ok (some name) x := by
  rw [readPlayer, bind_of_ok (readCstring_cstring hname x), if_neg (by rwa [String.isEmpty_iff])]
  rfl

lemma readPlayer_end (x : Bytes) : readPlayer (cstring "" ++ x) = .ok none x := by
  rw [readPlayer, bind_of_ok (readCstring_cstring (by decide) x)]
  rfl

/-! ### Properties -/

variable {pairs properties : List (String × String)} {property : String × String}

lemma propertiesOf_concat (pairs : List (String × String)) (key value : String) :
    propertiesOf (pairs ++ [(key, value)]) = setProperty (propertiesOf pairs) key value := by
  rw [propertiesOf, List.foldl_append]
  rfl

lemma any_fst_eq_iff : properties.any (·.1 = key) ↔ key ∈ properties.map (·.1) := by
  simp [List.any_eq_true, List.mem_map]

/-- A key that is noted keeps its place, and a new one comes last. -/
lemma map_fst_setProperty (properties : List (String × String)) (key value : String) :
    (setProperty properties key value).map (·.1) =
      if key ∈ properties.map (·.1) then properties.map (·.1)
      else properties.map (·.1) ++ [key] := by
  rw [setProperty]
  simp only [any_fst_eq_iff]
  split
  · rw [List.map_map]
    refine List.map_congr_left fun property _ => ?_
    rw [Function.comp_apply]
    split
    · rename_i heq
      exact heq.symm
    · rfl
  · rw [List.map_append]
    rfl

lemma eq_or_mem_of_mem_setProperty (h : property ∈ setProperty properties key value) :
    property = (key, value) ∨ property.1 ≠ key ∧ property ∈ properties := by
  rw [setProperty] at h
  simp only [any_fst_eq_iff] at h
  split at h
  · obtain ⟨before, hmem, rfl⟩ := List.mem_map.mp h
    by_cases heq : before.1 = key
    · exact .inl (if_pos heq)
    · rw [if_neg heq]
      exact .inr ⟨heq, hmem⟩
  · rename_i hnew
    rcases List.mem_append.mp h with hmem | hlast
    · refine .inr ⟨?_, hmem⟩
      rintro rfl
      exact hnew (List.mem_map_of_mem hmem)
    · exact .inl (List.mem_singleton.mp hlast)

/-- Each key is noted once, in the order in which the keys came first. -/
lemma map_fst_propertiesOf (pairs : List (String × String)) :
    (propertiesOf pairs).map (·.1) = (pairs.map (·.1)).eraseDups := by
  induction pairs using List.reverseRecOn with
  | nil => rfl
  | append_singleton pairs pair ih =>
    obtain ⟨key, value⟩ := pair
    rw [propertiesOf_concat, map_fst_setProperty, ih, List.map_append, List.eraseDups_append]
    simp only [List.mem_eraseDups]
    split
    · rename_i hmem
      simp [List.removeAll, hmem]
    · rename_i hmem
      simp [List.removeAll, hmem, List.eraseDups_cons]

/-- The value noted for a key is the last one that came. -/
lemma lookup_of_mem_propertiesOf (h : property ∈ propertiesOf pairs) :
    pairs.reverse.lookup property.1 = some property.2 := by
  induction pairs using List.reverseRecOn with
  | nil => cases h
  | append_singleton pairs pair ih =>
    obtain ⟨key, value⟩ := pair
    rw [propertiesOf_concat] at h
    rw [List.reverse_append, List.reverse_singleton, List.singleton_append]
    rcases eq_or_mem_of_mem_setProperty h with rfl | ⟨hne, hmem⟩
    · exact List.lookup_cons_self
    · rw [List.lookup_cons, beq_false_of_ne hne]
      exact ih hmem

/-! ### Answers -/

lemma readHandshake_handshakeAnswer (session : UInt32) (token : Int32) (x : Bytes) :
    readHandshake (handshakeAnswer session token ++ x) =
      .ok { packetType := 9, session, token } x := by
  rw [readHandshake, handshakeAnswer, List.append_assoc,
    bind_of_ok (readHeader_answerHeader _ _ _)]
  exact bind_of_ok (readNumber_ofInt32 _ token x)

lemma readBasicResponse_basicAnswer {stat : BasicStat} (session : UInt32)
    (h : ∀ text ∈ [stat.motd, stat.gameType, stat.map, stat.hostIp], '\x00' ∉ text.toList)
    (x : Bytes) :
    readBasicResponse (basicAnswer session stat ++ x) =
      .ok { packetType := 0, session, stat } x := by
  simp only [List.forall_mem_cons] at h
  obtain ⟨hmotd, hgameType, hmap, hhostIp, -⟩ := h
  simp only [readBasicResponse, basicAnswer, List.append_assoc]
  rw [bind_of_ok (readHeader_answerHeader _ _ _), bind_of_ok (readCstring_cstring hmotd _),
    bind_of_ok (readCstring_cstring hgameType _), bind_of_ok (readCstring_cstring hmap _),
    bind_of_ok (readNumber_ofInt32 _ _ _), bind_of_ok (readNumber_ofInt32 _ _ _),
    bind_of_ok (readUInt16LE_append _ _), bind_of_ok (readCstring_cstring hhostIp _)]
  rfl

lemma readFullResponse_fullAnswer {propertyMarker playerMarker : Bytes} {players : List String}
    (session : UInt32) (hproperty : propertyMarker.length = 11) (hplayer : playerMarker.length = 10)
    (hpairs : ∀ pair ∈ pairs, pair.1 ≠ "" ∧ '\x00' ∉ pair.1.toList ∧ '\x00' ∉ pair.2.toList)
    (hplayers : ∀ name ∈ players, name ≠ "" ∧ '\x00' ∉ name.toList) (x : Bytes) :
    readFullResponse (fullAnswer session propertyMarker pairs playerMarker players ++ x) =
      .ok { packetType := 0, session, propertyMarker, playerMarker
            stat := { properties := propertiesOf pairs, onlinePlayers := players } } x := by
  have hreadPairs (x : Bytes) := collect_flatMap consumes_readProperty
    (fun pair hpair x => readProperty_append (hpairs pair hpair).1 (hpairs pair hpair).2.1
      (hpairs pair hpair).2.2 x) (readProperty_end x)
  have hreadPlayers := collect_flatMap consumes_readPlayer
    (fun name hname x => readPlayer_append (hplayers name hname).1 (hplayers name hname).2 x)
    (readPlayer_end x)
  simp only [readFullResponse, fullAnswer, List.append_assoc] at hreadPairs ⊢
  rw [bind_of_ok (readHeader_answerHeader _ _ _), bind_of_ok (fill_append hproperty _),
    bind_of_ok (hreadPairs _), bind_of_ok (fill_append hplayer _), bind_of_ok hreadPlayers]
  rfl

/-- What a server tells in an answer is what is read, and what follows the answer is left. The
texts must not hold the zero that ends them, and an empty key or name would end the list. Each key
stands where it came first, with the value that came last. -/
theorem answers_read_back (session : UInt32) (x : Bytes) :
    (∀ token, readHandshake (handshakeAnswer session token ++ x) =
      .ok { packetType := 9, session, token } x) ∧
    (∀ stat : BasicStat,
      (∀ text ∈ [stat.motd, stat.gameType, stat.map, stat.hostIp], '\x00' ∉ text.toList) →
      readBasicResponse (basicAnswer session stat ++ x) =
        .ok { packetType := 0, session, stat } x) ∧
    (∀ (propertyMarker playerMarker : Bytes) (pairs : List (String × String))
        (players : List String), propertyMarker.length = 11 → playerMarker.length = 10 →
      (∀ pair ∈ pairs, pair.1 ≠ "" ∧ '\x00' ∉ pair.1.toList ∧ '\x00' ∉ pair.2.toList) →
      (∀ name ∈ players, name ≠ "" ∧ '\x00' ∉ name.toList) →
      ∃ properties,
        readFullResponse (fullAnswer session propertyMarker pairs playerMarker players ++ x) =
          .ok { packetType := 0, session, propertyMarker, playerMarker
                stat := { properties, onlinePlayers := players } } x ∧
        properties.map (·.1) = (pairs.map (·.1)).eraseDups ∧
        ∀ property ∈ properties, pairs.reverse.lookup property.1 = some property.2) := by
  refine ⟨fun token => readHandshake_handshakeAnswer session token x,
    fun stat h => readBasicResponse_basicAnswer session h x, ?_⟩
  intro propertyMarker playerMarker pairs players hproperty hplayer hpairs hplayers
  refine ⟨propertiesOf pairs, ?_, map_fst_propertiesOf pairs, fun _ => lookup_of_mem_propertiesOf⟩
  exact readFullResponse_fullAnswer session hproperty hplayer hpairs hplayers x

/-- Markers full of zeros, a number at the end of its range, a key that comes twice and a value
without a character. -/
theorem answers_read_back_of_repeated_key :
    readHandshake (handshakeAnswer 7 (-0x80000000) ++ [0]) =
      .ok { packetType := 9, session := 7, token := -0x80000000 } [0] ∧
    readBasicResponse (basicAnswer 7
        { motd := "☃", gameType := "", map := "world", onlinePlayers := -1
          maxPlayers := 0x7FFFFFFF, hostPort := 0x63DD, hostIp := "127.0.0.1" } ++ [0]) =
      .ok { packetType := 0, session := 7
            stat := { motd := "☃", gameType := "", map := "world", onlinePlayers := -1
                      maxPlayers := 0x7FFFFFFF, hostPort := 0x63DD, hostIp := "127.0.0.1" } } [0] ∧
    ∃ properties,
      readFullResponse (fullAnswer 7 (.replicate 11 0)
          [("map", "one"), ("mods", ""), ("map", "two")] (.replicate 10 0)
          ["Ann", "Ben", "Ann"] ++ [0]) =
        .ok { packetType := 0, session := 7
              propertyMarker := .replicate 11 0, playerMarker := .replicate 10 0
              stat := { properties, onlinePlayers := ["Ann", "Ben", "Ann"] } } [0] ∧
      properties.map (·.1) = ["map", "mods"] ∧
      ∀ property ∈ properties,
        [("map", "two"), ("mods", ""), ("map", "one")].lookup property.1 = some property.2 := by
  obtain ⟨hhandshake, hbasic, hfull⟩ := answers_read_back 7 [0]
  refine ⟨hhandshake _, hbasic _ (by decide), ?_⟩
  exact hfull (.replicate 11 0) (.replicate 10 0) [("map", "one"), ("mods", ""), ("map", "two")]
    ["Ann", "Ben", "Ann"] rfl rfl (by decide) (by decide)

end GameProbe.Query
