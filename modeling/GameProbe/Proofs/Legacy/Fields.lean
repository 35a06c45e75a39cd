import GameProbe.Proofs.Legacy.Statuses
import GameProbe.Proofs.Text.Parts
import GameProbe.Proofs.Transport.Cut
import GameProbe.Proofs.Transport.Mirror

/-!
# Which legacy answers are accepted

The fields of an answer are parted at whole code units, never at the halves of two of them. An
answer is accepted just if it has as many fields as its format asks for and those of them that
should be numbers are numbers. If not, the error tells which of that fails.
-/

namespace GameProbe.Legacy

open Carrier Decoder Wire

/-! ### Parts -/

section

variable {delimiter : UInt16} {units : List UInt16} {fields : List (List UInt16)}

/-- The fields are what the delimiter parts the code units into. -/
structure Parted (delimiter : UInt16) (units : List UInt16) (fields : List (List UInt16)) :
    Prop where
  ne_nil : fields ≠ []
  notMem : ∀ field ∈ fields, delimiter ∉ field
  join : [delimiter].intercalate fields = units

/-- Code units are split in the only way in which the delimiter parts them. -/
lemma splitOn_eq_iff_parted : units.splitOn delimiter = fields ↔ Parted delimiter units fields := by
  rw [List.splitOn_eq_iff]
  constructor
  · rintro ⟨hne, hnot, hjoin⟩
    exact ⟨hne, hnot, hjoin⟩
  · rintro ⟨hne, hnot, hjoin⟩
    exact ⟨hne, hnot, hjoin⟩

/-- The bytes are parted just where the code units are. -/
lemma flatMap_unitBytes_intercalate (delimiter : UInt16) (fields : List (List UInt16)) :
    ([delimiter].intercalate fields).flatMap Utf16.unitBytes =
      (Utf16.unitBytes delimiter).intercalate (fields.map (·.flatMap Utf16.unitBytes)) := by
  induction fields with
  | nil => rfl
  | cons field fields ih =>
    cases fields with
    | nil => simp only [List.map_cons, List.map_nil, List.intercalate_singleton]
    | cons next fields =>
      rw [List.intercalate_cons_cons, List.flatMap_append, List.flatMap_append, ih,
        List.flatMap_singleton]
      exact List.intercalate_cons_cons.symm

end

/-! ### Formats -/

/-- The two ages of servers. -/
inductive Format
  | newer
  | older

namespace Format

/-- How many fields a server tells. -/
def count : Format → Nat
  | newer => 5
  | older => 3

/-- The fields that have to be numbers, each with its name. -/
def numbers : Format → List (List UInt16) → List (String × List UInt16)
  | newer, [version, _, _, online, limit] =>
    [("online players", online), ("max players", limit), ("protocol version", version)]
  | older, [_, online, limit] => [("online players", online), ("max players", limit)]
  | _, _ => []

/-- The fields of a text in a format. -/
inductive Fields : Format → List UInt16 → List (List UInt16) → Prop
  | newer {units : List UInt16} {fields : List (List UInt16)} (h : Parted 0 units fields) :
    Fields newer (markerUnits ++ units) fields
  | older {units : List UInt16} {fields : List (List UInt16)} (hmarker : ¬markerUnits <+: units)
    (h : Parted 0xA7 units fields) : Fields older units fields

end Format

/-- The field is a number of 32 bits in decimal. -/
def TellsNumber (field : List UInt16) (n : Int32) : Prop :=
  Decimal.Tells (Utf16.decodeLossy field).toList n.toInt

/-- What comes of the fields of a text. They are counted before any number among them is read. -/
inductive Yields (length : UInt16) :
    Format → List (List UInt16) → Except Error Response → Prop
  | newer {version game motd online limit : List UInt16}
    {protocolVersion onlinePlayers maxPlayers : Int32}
    (hversion : TellsNumber version protocolVersion) (honline : TellsNumber online onlinePlayers)
    (hlimit : TellsNumber limit maxPlayers) :
    Yields length .newer [version, game, motd, online, limit]
      (.ok { packetId := kickId, length, protocolVersion := some protocolVersion,
             gameVersion := some (Utf16.decodeLossy game), motd := Utf16.decodeLossy motd,
             onlinePlayers, maxPlayers })
  | older {motd online limit : List UInt16} {onlinePlayers maxPlayers : Int32}
    (honline : TellsNumber online onlinePlayers) (hlimit : TellsNumber limit maxPlayers) :
    Yields length .older [motd, online, limit]
      (.ok { packetId := kickId, length, protocolVersion := none, gameVersion := none,
             motd := Utf16.decodeLossy motd, onlinePlayers, maxPlayers })
  | miscounted {format : Format} {fields : List (List UInt16)}
    (hcount : fields.length ≠ format.count) :
    Yields length format fields (.error (fieldCountError format.count fields.length))
  | notNumber {format : Format} {fields : List (List UInt16)} {name : String}
    {field : List UInt16} (hcount : fields.length = format.count)
    (hmem : (name, field) ∈ format.numbers fields) (hnot : ∀ n, ¬TellsNumber field n) :
    Yields length format fields (.error (.invalidNumber name (Utf16.decodeLossy field)))

section

variable {length : UInt16} {format : Format} {units : List UInt16} {fields : List (List UInt16)}
  {result : Except Error Response}

lemma numberField_cases (name : String) (field : List UInt16) :
    (∃ n, TellsNumber field n ∧ numberField name (field.flatMap Utf16.unitBytes) = .ok n) ∨
      (∀ n, ¬TellsNumber field n) ∧ numberField name (field.flatMap Utf16.unitBytes) =
        .error (.invalidNumber name (Utf16.decodeLossy field)) := by
  rw [numberField, Utf16.decodeBytes_flatMap_unitBytes]
  cases h : Decimal.int32? (Utf16.decodeLossy field) with
  | some n => exact .inl ⟨n, Decimal.int32?_eq_some_iff.mp h, rfl⟩
  | none => exact .inr ⟨Decimal.int32?_eq_none_iff.mp h, rfl⟩

/-- Every text has fields in one of the formats. -/
lemma exists_fields (units : List UInt16) : ∃ format fields, Format.Fields format units fields := by
  by_cases h : markerUnits <+: units
  · obtain ⟨rest, rfl⟩ := h
    exact ⟨.newer, _, .newer (splitOn_eq_iff_parted.mp rfl)⟩
  · exact ⟨.older, _, .older h (splitOn_eq_iff_parted.mp rfl)⟩

/-- A field that has to be a number is one, or its error is what comes of the text. -/
lemma Yields.of_number {name : String} {field : List UInt16} {next : Int32 → Except Error Response}
    (hcount : fields.length = format.count) (hmem : (name, field) ∈ format.numbers fields)
    (h : ∀ n, TellsNumber field n → Yields length format fields (next n)) :
    Yields length format fields (numberField name (field.flatMap Utf16.unitBytes) >>= next) := by
  rcases numberField_cases name field with ⟨n, hn, hread⟩ | ⟨hnot, hread⟩
  · rw [hread]
    exact h n hn
  · rw [hread]
    exact .notNumber hcount hmem hnot

lemma yields_ofText (length : UInt16) (h : Format.Fields format units fields) :
    Yields length format fields (Response.ofText length (units.flatMap Utf16.unitBytes)) := by
  cases h with
  | @newer units fields h =>
    have hmarker : marker.isPrefixOf ((markerUnits ++ units).flatMap Utf16.unitBytes) := by
      rw [List.isPrefixOf_iff_prefix, marker_eq, flatMap_unitBytes_prefix_iff]
      exact List.prefix_append _ _
    have hfields : splitFields newerDelimiter
        (((markerUnits ++ units).flatMap Utf16.unitBytes).drop marker.length) =
          fields.map (·.flatMap Utf16.unitBytes) := by
      rw [List.flatMap_append, ← marker_eq, List.drop_left, newerDelimiter_eq,
        splitFields_flatMap_unitBytes, splitOn_eq_iff_parted.mpr h]
    rw [Response.ofText, if_pos hmarker, hfields]
    split
    · rename_i heq
      simp only [List.map_eq_cons_iff, List.map_eq_nil_iff] at heq
      obtain ⟨version, _, rfl, rfl, game, _, rfl, rfl, motd, _, rfl, rfl, online, _, rfl, rfl,
        limit, _, rfl, rfl, rfl⟩ := heq
      rw [Utf16.decodeBytes_flatMap_unitBytes, Utf16.decodeBytes_flatMap_unitBytes]
      refine .of_number rfl (by simp [Format.numbers]) fun onlinePlayers honline => ?_
      refine .of_number rfl (by simp [Format.numbers]) fun maxPlayers hlimit => ?_
      refine .of_number rfl (by simp [Format.numbers]) fun protocolVersion hversion => ?_
      exact .newer hversion honline hlimit
    · rename_i hcount
      rw [List.length_map]
      refine .miscounted fun hlength => ?_
      obtain ⟨version, tail, rfl⟩ := List.exists_cons_of_length_eq_add_one hlength
      obtain ⟨game, tail, rfl⟩ := List.exists_cons_of_length_eq_add_one (Nat.succ.inj hlength)
      obtain ⟨motd, online, limit, rfl⟩ :=
        List.length_eq_three.mp (Nat.succ.inj (Nat.succ.inj hlength))
      exact hcount _ _ _ _ _ rfl
  | older hmarker h =>
    have hmarker : ¬marker.isPrefixOf (units.flatMap Utf16.unitBytes) := by
      rwa [List.isPrefixOf_iff_prefix, marker_eq, flatMap_unitBytes_prefix_iff]
    rw [Response.ofText, if_neg hmarker, olderDelimiter_eq, splitFields_flatMap_unitBytes,
      splitOn_eq_iff_parted.mpr h]
    split
    · rename_i heq
      simp only [List.map_eq_cons_iff, List.map_eq_nil_iff] at heq
      obtain ⟨motd, _, rfl, rfl, online, _, rfl, rfl, limit, _, rfl, rfl, rfl⟩ := heq
      rw [Utf16.decodeBytes_flatMap_unitBytes]
      refine .of_number rfl (by simp [Format.numbers]) fun onlinePlayers honline => ?_
      refine .of_number rfl (by simp [Format.numbers]) fun maxPlayers hlimit => ?_
      exact .older honline hlimit
    · rename_i hcount
      rw [List.length_map]
      refine .miscounted fun hlength => ?_
      obtain ⟨motd, online, limit, rfl⟩ := List.length_eq_three.mp hlength
      exact hcount _ _ _ rfl

lemma Yields.exists_ok_iff (h : Yields length format fields result) :
    (∃ response, result = .ok response) ↔ fields.length = format.count ∧
      ∀ number ∈ format.numbers fields, ∃ n, TellsNumber number.2 n := by
  cases h with
  | newer hversion honline hlimit =>
    refine iff_of_true ⟨_, rfl⟩ ⟨rfl, ?_⟩
    simp only [Format.numbers, List.forall_mem_cons]
    exact ⟨⟨_, honline⟩, ⟨_, hlimit⟩, ⟨_, hversion⟩, nofun⟩
  | older honline hlimit =>
    refine iff_of_true ⟨_, rfl⟩ ⟨rfl, ?_⟩
    simp only [Format.numbers, List.forall_mem_cons]
    exact ⟨⟨_, honline⟩, ⟨_, hlimit⟩, nofun⟩
  | miscounted hcount => exact iff_of_false nofun fun h => hcount h.1
  | notNumber hcount hmem hnot =>
    refine iff_of_false nofun fun h => ?_
    obtain ⟨n, hn⟩ := h.2 _ hmem
    exact hnot n hn

end

/-! ### Answers -/

section

variable {σ π : Type} [StreamTransport σ] [Peer π] [Carrier σ π] {length : UInt16} {run : Bytes}

/-- Of an answer, just the packet id, the length and so many code units are read. -/
lemma settles_readResponse (h : run.length = 2 * length.toNat) :
    Settles (readResponse : Decoder σ Response) readResponse (kickId :: (uint16BE length ++ run))
      (Response.ofText length run) := by
  have hid : Settles (readByte : Decoder σ UInt8) readByte [kickId] (.ok kickId) :=
    mirrors_readByte.settles_of_ok (readByte_cons kickId [])
  have hlength : Settles (readUInt16BE : Decoder σ UInt16) readUInt16BE (uint16BE length)
      (.ok length) :=
    mirrors_readUInt16BE.settles_of_ok (by simpa using readUInt16BE_append length [])
  rw [← List.singleton_append]
  refine hid.bind_ok ?_
  dsimp only
  rw [if_neg (not_not_intro rfl), if_neg (not_not_intro rfl)]
  refine hlength.bind_ok ((settles_readBytes h).bind_unread ?_)
  cases Response.ofText length run with
  | ok response => exact .pure response
  | error e => exact .throw e

/-- The loop over the bytes of a text cuts them just where its code units are split, which is in
just one way. Of an answer that has come whole, just the packet id, the length and so many code
units are read; what comes of it, its fields and their numbers decide. -/
theorem answers_accepted_by_fields :
    (∀ (delimiter : UInt16) (units : List UInt16) (fields : List (List UInt16)),
      (units.splitOn delimiter = fields ↔ Parted delimiter units fields) ∧
      (Parted delimiter units fields →
        splitFields (Utf16.unitBytes delimiter) (units.flatMap Utf16.unitBytes) =
          fields.map (·.flatMap Utf16.unitBytes) ∧
        units.flatMap Utf16.unitBytes =
          (Utf16.unitBytes delimiter).intercalate (fields.map (·.flatMap Utf16.unitBytes)))) ∧
    ∀ (length : UInt16) (run : Bytes), run.length = 2 * length.toNat →
      ∃ units, units.flatMap Utf16.unitBytes = run ∧
        (∃ format fields, Format.Fields format units fields) ∧
        ∀ format fields, Format.Fields format units fields →
          ∃ result, Settles (readResponse : Decoder σ Response) readResponse
              (kickId :: (uint16BE length ++ run)) result ∧
            Yields length format fields result ∧
            ((∃ response, result = .ok response) ↔ fields.length = format.count ∧
              ∀ number ∈ format.numbers fields, ∃ n, TellsNumber number.2 n) := by
  constructor
  · intro delimiter units fields
    refine ⟨splitOn_eq_iff_parted, fun hparted => ⟨?_, ?_⟩⟩
    · rw [splitFields_flatMap_unitBytes, splitOn_eq_iff_parted.mpr hparted]
    · rw [← hparted.join]
      exact flatMap_unitBytes_intercalate delimiter fields
  · intro length run hrun
    obtain ⟨units, -, rfl⟩ := Utf16.exists_units hrun
    refine ⟨units, rfl, exists_fields units, ?_⟩
    intro format fields hfields
    have hyields := yields_ofText length hfields
    exact ⟨_, settles_readResponse hrun, hyields, hyields.exists_ok_iff⟩

end

/-- The code units of an older answer, with the bytes of a section sign astride the first two. -/
def straddlingUnits : List UInt16 := [0x1200, 0xA741, 0xA7, 0x31, 0xA7, 0x32]

/-- The code units of a newer answer with too few fields, of which none is a number. -/
def shortUnits : List UInt16 := markerUnits ++ [0x41, 0, 0x42]

theorem answers_accepted_by_fields_of_odd_units :
    (∃ response, ∀ x, readResponse (kickId :: (uint16BE 6 ++
      straddlingUnits.flatMap Utf16.unitBytes) ++ x) = .ok response x) ∧
    ∀ x, readResponse (kickId :: (uint16BE 6 ++ shortUnits.flatMap Utf16.unitBytes) ++ x) =
      .error (fieldCountError 5 2) x := by
  have h := (answers_accepted_by_fields (σ := Cut Traffic)).2
  constructor
  · obtain ⟨units, hunits, -, hread⟩ := h 6 (straddlingUnits.flatMap Utf16.unitBytes) rfl
    obtain rfl : units = straddlingUnits := Utf16.flatMap_unitBytes_injective hunits
    have hfields : Format.Fields .older straddlingUnits [[0x1200, 0xA741], [0x31], [0x32]] :=
      .older (by decide) ⟨by decide, by decide, by decide⟩
    obtain ⟨result, hsettles, -, hiff⟩ := hread _ _ hfields
    have hnumbers : ∀ number ∈ Format.older.numbers [[0x1200, 0xA741], [0x31], [0x32]],
        ∃ n, TellsNumber number.2 n := by
      simp only [Format.numbers, List.forall_mem_cons]
      exact ⟨⟨1, Decimal.int32?_eq_some_iff.mp (by decide)⟩,
        ⟨2, Decimal.int32?_eq_some_iff.mp (by decide)⟩, nofun⟩
    obtain ⟨response, rfl⟩ := hiff.mpr ⟨rfl, hnumbers⟩
    exact ⟨response, hsettles.bytes⟩
  · obtain ⟨units, hunits, -, hread⟩ := h 6 (shortUnits.flatMap Utf16.unitBytes) rfl
    obtain rfl : units = shortUnits := Utf16.flatMap_unitBytes_injective hunits
    have hfields : Format.Fields .newer shortUnits [[0x41], [0x42]] :=
      .newer ⟨by decide, by decide, by decide⟩
    obtain ⟨result, hsettles, hyields, -⟩ := hread _ _ hfields
    cases hyields with
    | miscounted => exact hsettles.bytes
    | notNumber hcount => cases hcount

end GameProbe.Legacy
