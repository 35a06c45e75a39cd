import GameProbe.Proofs.Bedrock.Slots
import GameProbe.Proofs.Legacy.Fields
import GameProbe.Proofs.Query.Answers

/-!
# Numbers in text

Servers of three protocols send numbers as text, each in an encoding of its own. The protocols agree
on which texts are numbers, and differ in what they make of the others: a query and a legacy ping
fail, and a Bedrock status has a zero there.
-/

namespace GameProbe

open Wire

namespace Legacy

/-- The numbers of an answer, each with the name of its field. -/
def Response.numbers (response : Response) : List (String × Int32) :=
  [("online players", response.onlinePlayers), ("max players", response.maxPlayers)] ++
    (response.protocolVersion.map fun version => ("protocol version", version)).toList

/-- The field with the name stands among the fields of a text. There are as many fields as there
should be, and all the others that have to be numbers are. -/
inductive HasField (name : String) (field units : List UInt16) : Prop
  | intro {format : Format} {fields : List (List UInt16)} (hfields : format.Fields units fields)
    (hcount : fields.length = format.count) (hmem : (name, field) ∈ format.numbers fields)
    (hothers : ∀ other ∈ format.numbers fields, other.1 ≠ name → ∃ n, TellsNumber other.2 n)

end Legacy

/-- What is made of a text in the place of a number, whatever bytes or code units it is decoded
from: the result of a protocol that is strict about numbers, and the number of one that is not. -/
structure ReadAs (text : String) (strict : String → Except Error Int32) (lenient : Int32) :
    Prop where
  query (name : String) (bytes x : Bytes) : 0 ∉ bytes → Utf8.decodeLossy bytes = text →
    Query.readNumber name (bytes ++ 0 :: x) = (strict name).leaving x
  queryToken (session : UInt32) (bytes x : Bytes) : 0 ∉ bytes → Utf8.decodeLossy bytes = text →
    Query.readHandshake (Query.answerHeader .handshake session ++ (bytes ++ 0 :: x)) =
      ((strict "challenge token").map fun token => { packetType := 9, session, token }).leaving x
  legacy (name : String) (bytes : Bytes) : Utf16.decodeBytes bytes = text →
    Legacy.numberField name bytes = strict name
  legacyNumber (name : String) (field units : List UInt16) (x : Bytes) : units.length ≤ 0xFFFF →
    Legacy.HasField name field units → Utf16.decodeLossy field = text →
    ∀ n, strict name = .ok n → ∃ response,
      Legacy.readResponse (Legacy.kickUnits units ++ x) = .ok response x ∧
        (name, n) ∈ response.numbers
  legacyError (name : String) (field units : List UInt16) (x : Bytes) : units.length ≤ 0xFFFF →
    Legacy.HasField name field units → Utf16.decodeLossy field = text →
    ∀ e, strict name = .error e → Legacy.readResponse (Legacy.kickUnits units ++ x) = .error e x
  bedrock (status : String) (slot : Nat) : (Bedrock.fields status)[slot]? = some text →
    Bedrock.kinds[slot]? = some .number →
    (Bedrock.Status.ofText status).values[slot]? = some (.number lenient)

/-- The number of a field, or the error that its text is none. -/
def numberOr (name text : String) : Option Int32 → Except Error Int32
  | some n => .ok n
  | none => .error (.invalidNumber name text)

variable {bytes : Bytes} {text : String}

lemma Query.readNumber_apply (name : String) (h : 0 ∉ bytes) (x : Bytes) :
    readNumber name (bytes ++ 0 :: x) =
      (numberOr name (Utf8.decodeLossy bytes)
        (Decimal.int32? (Utf8.decodeLossy bytes))).leaving x := by
  have hread : readCstring (bytes ++ 0 :: x) = .ok (Utf8.decodeLossy bytes) x :=
    bind_of_ok (readCstringBytes_append h x)
  rw [readNumber, bind_of_ok hread]
  cases Decimal.int32? (Utf8.decodeLossy bytes) <;> rfl

lemma Query.readHandshake_apply (session : UInt32) (h : 0 ∉ bytes) (x : Bytes) :
    readHandshake (answerHeader .handshake session ++ (bytes ++ 0 :: x)) =
      ((numberOr "challenge token" (Utf8.decodeLossy bytes)
        (Decimal.int32? (Utf8.decodeLossy bytes))).map fun token =>
          { packetType := 9, session, token }).leaving x := by
  have hread := readNumber_apply "challenge token" h x
  rw [readHandshake, bind_of_ok (readHeader_answerHeader _ _ _)]
  cases hnumber : Decimal.int32? (Utf8.decodeLossy bytes) with
  | some token =>
    rw [hnumber] at hread
    exact bind_of_ok hread
  | none =>
    rw [hnumber] at hread
    exact bind_of_error hread

lemma Legacy.numberField_eq (name : String) (bytes : Bytes) :
    numberField name bytes =
      numberOr name (Utf16.decodeBytes bytes) (Decimal.int32? (Utf16.decodeBytes bytes)) := by
  rw [numberField]
  cases Decimal.int32? (Utf16.decodeBytes bytes) <;> rfl

namespace Legacy

variable {length : UInt16} {format : Format} {fields : List (List UInt16)} {response : Response}
  {result : Except Error Response} {name : String} {field field' units : List UInt16}

/-- No two fields that have to be numbers have one name. -/
lemma Format.field_unique (h : (name, field) ∈ format.numbers fields)
    (h' : (name, field') ∈ format.numbers fields) : field = field' := by
  unfold Format.numbers at h h'
  split at h <;> simp only [List.mem_cons, Prod.mk.injEq, List.not_mem_nil, or_false] at h h'
  · rcases h with ⟨rfl, rfl⟩ | ⟨rfl, rfl⟩ | ⟨rfl, rfl⟩ <;> simpa [eq_comm] using h'
  · rcases h with ⟨rfl, rfl⟩ | ⟨rfl, rfl⟩ <;> simpa [eq_comm] using h'

/-- An answer has the number of each field that has to be one. -/
lemma Yields.numbers_of_ok (h : Yields length format fields (.ok response)) :
    ∀ number ∈ format.numbers fields,
      ∃ n, TellsNumber number.2 n ∧ (number.1, n) ∈ response.numbers := by
  cases h with
  | newer hversion honline hlimit =>
    simp only [Format.numbers, List.forall_mem_cons]
    exact ⟨⟨_, honline, by simp [Response.numbers]⟩, ⟨_, hlimit, by simp [Response.numbers]⟩,
      ⟨_, hversion, by simp [Response.numbers]⟩, List.forall_mem_nil _⟩
  | older honline hlimit =>
    simp only [Format.numbers, List.forall_mem_cons]
    exact ⟨⟨_, honline, by simp [Response.numbers]⟩, ⟨_, hlimit, by simp [Response.numbers]⟩,
      List.forall_mem_nil _⟩

/-- With the other numbers in order, one field decides whether there is an answer. -/
lemma Yields.eq_ok_or_error (h : Yields length format fields result)
    (hcount : fields.length = format.count) (hmem : (name, field) ∈ format.numbers fields)
    (hothers : ∀ other ∈ format.numbers fields, other.1 ≠ name → ∃ n, TellsNumber other.2 n) :
    (∃ n response, TellsNumber field n ∧ result = .ok response ∧ (name, n) ∈ response.numbers) ∨
      (∀ n, ¬TellsNumber field n) ∧
        result = .error (.invalidNumber name (Utf16.decodeLossy field)) := by
  cases hresult : result with
  | ok response =>
    obtain ⟨n, hn, hnumber⟩ := (hresult ▸ h).numbers_of_ok _ hmem
    exact .inl ⟨n, response, hn, rfl, hnumber⟩
  | error e =>
    rw [hresult] at h
    cases h with
    | miscounted hmiscounted => exact absurd hcount hmiscounted
    | notNumber _ hmem' hnot =>
      obtain rfl : _ = name := by
        by_contra hname
        obtain ⟨n, hn⟩ := hothers _ hmem' hname
        exact hnot n hn
      rw [Format.field_unique hmem hmem']
      exact .inr ⟨hnot, rfl⟩

/-- What is read of a kick packet is decided by a field that has to be a number, if all else is in
order. -/
lemma readResponse_kickUnits (hfits : units.length ≤ 0xFFFF) (h : HasField name field units)
    (x : Bytes) :
    (∃ n response, Decimal.int32? (Utf16.decodeLossy field) = some n ∧
      readResponse (kickUnits units ++ x) = .ok response x ∧ (name, n) ∈ response.numbers) ∨
    Decimal.int32? (Utf16.decodeLossy field) = none ∧ readResponse (kickUnits units ++ x) =
      .error (.invalidNumber name (Utf16.decodeLossy field)) x := by
  obtain ⟨hfields, hcount, hmem, hothers⟩ := h
  have hrun : (units.flatMap Utf16.unitBytes).length =
      2 * (UInt16.ofNat units.length).toNat := by
    rw [UInt16.toNat_ofNat_of_lt' (Nat.lt_succ_of_le hfits), Utf16.length_flatMap_unitBytes]
  have hread := (settles_readResponse (σ := Cut Traffic) hrun).bytes x
  rcases (yields_ofText (.ofNat units.length) hfields).eq_ok_or_error hcount hmem hothers with
    ⟨n, response, hn, hresult, hnumber⟩ | ⟨hnot, hresult⟩
  · rw [hresult] at hread
    exact .inl ⟨n, response, Decimal.int32?_eq_some_iff.mpr hn, hread, hnumber⟩
  · rw [hresult] at hread
    exact .inr ⟨Decimal.int32?_eq_none_iff.mpr hnot, hread⟩

end Legacy

/-- All three protocols read numbers in one way. -/
lemma readAs_int32? (text : String) :
    ReadAs text (fun name => numberOr name text (Decimal.int32? text))
      ((Decimal.int32? text).getD 0) where
  query name bytes x h := by
    rintro rfl
    exact Query.readNumber_apply name h x
  queryToken session bytes x h := by
    rintro rfl
    exact Query.readHandshake_apply session h x
  legacy name bytes := by
    rintro rfl
    exact Legacy.numberField_eq name bytes
  legacyNumber name field units x hfits hfield := by
    rintro rfl n hn
    rcases Legacy.readResponse_kickUnits hfits hfield x with
      ⟨n', response, hnumber, hread, hmem⟩ | ⟨hnumber, -⟩
    · rw [hnumber] at hn
      cases hn
      exact ⟨response, hread, hmem⟩
    · rw [hnumber] at hn
      cases hn
  legacyError name field units x hfits hfield := by
    rintro rfl e he
    rcases Legacy.readResponse_kickUnits hfits hfield x with
      ⟨n, response, hnumber, -⟩ | ⟨hnumber, hread⟩
    · rw [hnumber] at he
      cases he
    · rw [hnumber] at he
      cases he
      exact hread
  bedrock status slot hslot hkind := by
    rw [Bedrock.getElem?_values_ofText, hslot, hkind]
    rfl

/-- A text that tells a number of 32 bits in decimal is read as that number by all three protocols,
in whatever field and however it is encoded. With any other text a query and a legacy ping fail,
telling the text, and a Bedrock status has a zero. -/
theorem protocols_agree_on_numbers (text : String) :
    (∀ n : Int32, Decimal.Tells text.toList n.toInt → ReadAs text (fun _ => .ok n) n) ∧
    ((∀ n : Int32, ¬Decimal.Tells text.toList n.toInt) →
      ReadAs text (fun name => .error (.invalidNumber name text)) 0) := by
  have hread := readAs_int32? text
  constructor
  · intro n hn
    rwa [Decimal.int32?_eq_some_iff.mpr hn] at hread
  · intro h
    rwa [Decimal.int32?_eq_none_iff.mpr h] at hread

/-- The least number of 32 bits with a needless zero, and a text that only bytes or code units that
are none can be decoded to. -/
theorem protocols_agree_on_numbers_of_limits :
    ReadAs "-02147483648" (fun _ => .ok (-0x80000000)) (-0x80000000) ∧
    Query.readNumber "numplayers" ([0x31, 0xFF, 0, 7] : Bytes) =
      .error (.invalidNumber "numplayers" "1\uFFFD") [7] ∧
    Legacy.numberField "max players" [0, 0x31, 0xD8, 0] =
      .error (.invalidNumber "max players" "1\uFFFD") ∧
    Legacy.readResponse (Legacy.kickUnits [0x41, 0xA7, 0x32, 0xA7, 0x31, 0xD800] ++ [7]) =
      .error (.invalidNumber "max players" "1\uFFFD") [7] ∧
    (Bedrock.Status.ofText "MCPE;motd;1\uFFFD;1.20").values[2]? = some (.number 0) := by
  have hleast : Decimal.int32? "-02147483648" = some (-0x80000000) := by decide
  have hnone : Decimal.int32? "1\uFFFD" = none := by decide
  obtain ⟨hnumber, -⟩ := protocols_agree_on_numbers "-02147483648"
  obtain ⟨-, hother⟩ := protocols_agree_on_numbers "1\uFFFD"
  have hread := hother (Decimal.int32?_eq_none_iff.mp hnone)
  have hfields : Legacy.Format.Fields .older [0x41, 0xA7, 0x32, 0xA7, 0x31, 0xD800]
      [[0x41], [0x32], [0x31, 0xD800]] := .older (by decide) ⟨by decide, by decide, by decide⟩
  have hfield : Legacy.HasField "max players" [0x31, 0xD800]
      [0x41, 0xA7, 0x32, 0xA7, 0x31, 0xD800] := by
    refine .intro hfields rfl (by decide) ?_
    simp only [Legacy.Format.numbers, List.forall_mem_cons]
    exact ⟨fun _ => ⟨2, Decimal.int32?_eq_some_iff.mp (by decide)⟩, fun h => absurd rfl h,
      List.forall_mem_nil _⟩
  refine ⟨hnumber _ (Decimal.int32?_eq_some_iff.mp hleast), ?_, ?_, ?_, ?_⟩
  · exact hread.query "numplayers" [0x31, 0xFF] [7] (by decide) (by decide)
  · exact hread.legacy "max players" [0, 0x31, 0xD8, 0] (by decide)
  · exact hread.legacyError "max players" _ _ [7] (by decide) hfield (by decide) _ rfl
  · exact hread.bedrock _ 2 (by decide) rfl

end GameProbe
