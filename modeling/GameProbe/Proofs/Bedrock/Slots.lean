import GameProbe.Bedrock.Status
import GameProbe.Proofs.Text.Decimal
import GameProbe.Proofs.Text.Parts

/-!
# Bedrock statuses slot by slot

A status text has a slot for each field of a status. What is in a slot decides its field and no
other one. A field whose slot is missing, or tells no number where there should be one, is left at
nothing or zero.
-/

namespace GameProbe.Bedrock

/-! ### Slots -/

/-- What a slot is for. -/
inductive Kind
  | text
  | number
  | port

/-- A field of a status. -/
inductive Value
  | text (content : String)
  | number (n : Int32)
  | port (n : UInt16)
deriving DecidableEq

/-- What the slots are for, in their order. -/
def kinds : List Kind :=
  [.text, .text, .number, .text, .number, .number, .text, .text, .text, .number, .port, .port,
    .text]

/-- The fields of a status, in the order of their slots. -/
def Status.values (status : Status) : List Value :=
  [.text status.edition, .text status.motd, .number status.protocolVersion,
    .text status.gameVersion, .number status.onlinePlayers, .number status.maxPlayers,
    .text status.serverId, .text status.levelName, .text status.gameMode,
    .number status.gameModeNumber, .port status.ipv4Port, .port status.ipv6Port,
    .text status.extra]

/-- The text that a server writes into the slot of a field. -/
def Value.written : Value → String
  | .text content => content
  | .number n => Decimal.ofInt32 n
  | .port n => Decimal.ofUInt16 n

/-- The texts that a server writes into the slots. -/
def Status.slots (status : Status) : List String := status.values.map Value.written

/-- The field that the text in a slot counts as. -/
inductive Counts : Kind → String → Value → Prop
  | text (content : String) : Counts .text content (.text content)
  | number {text : String} {n : Int32} (h : Decimal.Tells text.toList n.toInt) :
    Counts .number text (.number n)
  | noNumber {text : String} (h : ∀ n : Int32, ¬Decimal.Tells text.toList n.toInt) :
    Counts .number text (.number 0)
  | port {text : String} {n : UInt16} (h : Decimal.Tells text.toList n.toNat) :
    Counts .port text (.port n)
  | noPort {text : String} (h : ∀ n : UInt16, ¬Decimal.Tells text.toList n.toNat) :
    Counts .port text (.port 0)

/-- The field that is made of the text in a slot. -/
def Kind.read : Kind → String → Value
  | .text, content => .text content
  | .number, content => .number ((Decimal.int32? content).getD 0)
  | .port, content => .port ((Decimal.uint16? content).getD 0)

/-- What the slot of a field is for. -/
def Value.kind : Value → Kind
  | .text _ => .text
  | .number _ => .number
  | .port _ => .port

section

variable {text : String} {kind : Kind} {value : Value}

lemma read_of_counts (h : Counts kind text value) : kind.read text = value := by
  cases h with
  | text => rfl
  | number h => rw [Kind.read, Decimal.int32?_eq_some_iff.mpr h, Option.getD_some]
  | noNumber h => rw [Kind.read, Decimal.int32?_eq_none_iff.mpr h, Option.getD_none]
  | port h => rw [Kind.read, Decimal.getD_uint16?_of_tells h]
  | noPort h => rw [Kind.read, Decimal.uint16?_eq_none h, Option.getD_none]

/-- Every text counts as something. -/
lemma exists_counts (kind : Kind) (text : String) : ∃ value, Counts kind text value := by
  cases kind with
  | text => exact ⟨_, .text text⟩
  | number =>
    by_cases h : ∃ n : Int32, Decimal.Tells text.toList n.toInt
    · obtain ⟨n, hn⟩ := h
      exact ⟨_, .number hn⟩
    · exact ⟨_, .noNumber fun n hn => h ⟨n, hn⟩⟩
  | port =>
    by_cases h : ∃ n : UInt16, Decimal.Tells text.toList n.toNat
    · obtain ⟨n, hn⟩ := h
      exact ⟨_, .port hn⟩
    · exact ⟨_, .noPort fun n hn => h ⟨n, hn⟩⟩

lemma counts_read (kind : Kind) (text : String) : Counts kind text (kind.read text) := by
  obtain ⟨value, h⟩ := exists_counts kind text
  rwa [read_of_counts h]

/-- What a server writes for a field counts as that field. -/
lemma counts_written (value : Value) : Counts value.kind value.written value := by
  cases value with
  | text content => exact .text content
  | number n => exact .number (Decimal.tells_ofInt32 n)
  | port n => exact .port (Decimal.tells_ofUInt16 n)

end

/-! ### Texts -/

section

variable {text : String} {parts : List String}

/-- A text has the fields of which it is joined. -/
lemma fields_eq_iff : fields text = parts ↔
    parts ≠ [] ∧ (∀ part ∈ parts, ';' ∉ part.toList) ∧ ";".intercalate parts = text := by
  have hparts : fields text = parts ↔ text.toList.splitOn ';' = parts.map String.toList := by
    rw [fields]
    constructor
    · rintro rfl
      simp [Function.comp_def]
    · intro h
      rw [h]
      simp [Function.comp_def]
  rw [hparts, List.splitOn_eq_iff, List.forall_mem_map, ← String.toList_inj,
    String.toList_intercalate]
  simp

lemma fields_append (text more : String) :
    fields (text ++ ";" ++ more) = fields text ++ fields more := by
  have hlist : (text ++ ";" ++ more).toList = text.toList ++ ';' :: more.toList := by simp
  rw [fields, hlist, List.splitOn_append_cons_self, List.map_append]
  rfl

end

/-! ### Statuses -/

section

variable {status : Status} {text : String} {i : Nat}

lemma values_injective : Function.Injective Status.values := by
  rintro ⟨⟩ ⟨⟩ h
  simpa [Status.values] using h

lemma kinds_eq (status : Status) : kinds = status.values.map Value.kind := rfl

lemma values_default : ({} : Status).values = kinds.map (Kind.read · "") := by
  decide

lemma values_ofText (text : String) : (Status.ofText text).values =
    kinds.mapIdx fun i kind => kind.read ((fields text)[i]?.getD "") := by
  simp [Status.ofText, Status.values, kinds, Kind.read]

/-- What is in a slot decides its field. -/
lemma getElem?_values_ofText (text : String) (i : Nat) : (Status.ofText text).values[i]? =
    kinds[i]?.map fun kind => kind.read ((fields text)[i]?.getD "") := by
  rw [values_ofText, List.getElem?_mapIdx]

lemma getElem?_values_of_slots (h : (fields text)[i]? = status.slots[i]?) :
    (Status.ofText text).values[i]? = status.values[i]? := by
  rw [getElem?_values_ofText, h, Status.slots, kinds_eq status, List.getElem?_map,
    List.getElem?_map]
  cases status.values[i]? with
  | none => rfl
  | some value => exact congrArg some (read_of_counts (counts_written value))

lemma getElem?_values_of_none (h : (fields text)[i]? = none) :
    (Status.ofText text).values[i]? = ({} : Status).values[i]? := by
  rw [getElem?_values_ofText, h, values_default, List.getElem?_map]
  rfl

lemma ofText_of_prefix (h : status.slots <+: fields text) : Status.ofText text = status := by
  obtain ⟨more, hfields⟩ := h
  apply values_injective
  apply List.ext_getElem?
  intro i
  rcases Nat.lt_or_ge i status.slots.length with hi | hi
  · apply getElem?_values_of_slots
    rw [← hfields, List.getElem?_append_left hi]
  · -- there are as many fields as slots
    have hstatus : status.values[i]? = none := List.getElem?_eq_none hi
    have hread : (Status.ofText text).values[i]? = none := List.getElem?_eq_none hi
    rw [hread, hstatus]

/-- The slots hold no semicolon if the texts of the status do not. -/
lemma notMem_of_mem_slots (h : ∀ content, .text content ∈ status.values → ';' ∉ content.toList) :
    ∀ slot ∈ status.slots, ';' ∉ slot.toList := by
  rw [Status.slots, List.forall_mem_map]
  intro value hvalue
  cases value with
  | text content => exact h content hvalue
  | number n => exact Decimal.notMem_ofInt32 (by decide) (by decide) n
  | port n => exact Decimal.notMem_ofUInt16 (by decide) n

lemma fields_take_slots (h : ∀ content, .text content ∈ status.values → ';' ∉ content.toList)
    {k : Nat} (hk : 0 < k) :
    fields (";".intercalate (status.slots.take k)) = status.slots.take k := by
  refine fields_eq_iff.mpr ⟨?_, ?_, rfl⟩
  · rw [ne_eq, List.take_eq_nil_iff, not_or]
    exact ⟨Nat.ne_of_gt hk, List.cons_ne_nil _ _⟩
  · intro slot hslot
    exact notMem_of_mem_slots h slot (List.mem_of_mem_take hslot)

lemma fields_slots (h : ∀ content, .text content ∈ status.values → ';' ∉ content.toList) :
    fields (";".intercalate status.slots) = status.slots :=
  fields_take_slots h (k := 13) (by decide)

lemma values_ofText_take (h : ∀ content, .text content ∈ status.values → ';' ∉ content.toList)
    {k : Nat} (hk : 0 < k) (hle : k ≤ status.values.length) :
    (Status.ofText (";".intercalate (status.slots.take k))).values =
      status.values.take k ++ ({} : Status).values.drop k := by
  have hfields := fields_take_slots h hk
  have hlength : (status.values.take k).length = k := List.length_take_of_le hle
  apply List.ext_getElem?
  intro i
  rcases Nat.lt_or_ge i k with hi | hi
  · rw [List.getElem?_append_left (by omega), List.getElem?_take_of_lt hi]
    apply getElem?_values_of_slots
    rw [hfields, List.getElem?_take_of_lt hi]
  · rw [List.getElem?_append_right (by omega), hlength, List.getElem?_drop,
      Nat.add_sub_cancel' hi]
    apply getElem?_values_of_none
    rw [hfields, List.getElem?_take_eq_none hi]

end

/-! ### One slot among the others -/

/-- The status text with another content in a slot. -/
def withSlot (text : String) (i : Nat) (content : String) : String :=
  ";".intercalate ((fields text).set i content)

section

variable {text content : String} {i j : Nat} {kind : Kind}

lemma fields_withSlot (i : Nat) (h : ';' ∉ content.toList) :
    fields (withSlot text i content) = (fields text).set i content := by
  obtain ⟨hne, hnot, -⟩ := fields_eq_iff.mp (rfl : fields text = _)
  refine fields_eq_iff.mpr ⟨by simpa using hne, ?_, rfl⟩
  intro part hpart
  rcases List.mem_or_eq_of_mem_set hpart with hpart | rfl
  · exact hnot part hpart
  · exact h

/-- The other fields stay as they are. -/
lemma getElem?_values_withSlot_of_ne (h : ';' ∉ content.toList) (hne : j ≠ i) :
    (Status.ofText (withSlot text i content)).values[j]? = (Status.ofText text).values[j]? := by
  rw [getElem?_values_ofText, getElem?_values_ofText, fields_withSlot i h,
    List.getElem?_set_ne hne.symm]

lemma exists_counts_withSlot (h : ';' ∉ content.toList) (hi : i < (fields text).length)
    (hkind : kinds[i]? = some kind) :
    ∃ value, (Status.ofText (withSlot text i content)).values[i]? = some value ∧
      Counts kind content value := by
  refine ⟨kind.read content, ?_, counts_read kind content⟩
  rw [getElem?_values_ofText, fields_withSlot i h, List.getElem?_set_self hi, hkind]
  rfl

end

/-- What a server writes into the slots is read back, with or without further slots behind them. Of
a status that breaks off behind a slot the fields up to there are read, and the others are left at
what they are by default. And in any status text, with another content in a slot, no other field
changes, and the field of that slot is what the content counts as: a number that it does not tell in
the range of the field is zero. -/
theorem statuses_read_by_slot :
    (∀ status : Status, (∀ content, .text content ∈ status.values → ';' ∉ content.toList) →
      Status.ofText (";".intercalate status.slots) = status ∧
      (∀ more, Status.ofText (";".intercalate status.slots ++ ";" ++ more) = status) ∧
      ∀ k, 1 ≤ k → k ≤ 13 →
        (Status.ofText (";".intercalate (status.slots.take k))).values =
          status.values.take k ++ ({} : Status).values.drop k) ∧
    ∀ text, ((∀ field ∈ fields text, ';' ∉ field.toList) ∧ ";".intercalate (fields text) = text) ∧
      ∀ i content, i < (fields text).length → ';' ∉ content.toList →
        (∀ j, j ≠ i →
          (Status.ofText (withSlot text i content)).values[j]? =
            (Status.ofText text).values[j]?) ∧
        ∀ kind, kinds[i]? = some kind →
          ∃ value, (Status.ofText (withSlot text i content)).values[i]? = some value ∧
            Counts kind content value := by
  constructor
  · intro status h
    refine ⟨?_, ?_, ?_⟩
    · refine ofText_of_prefix ⟨[], ?_⟩
      rw [fields_slots h, List.append_nil]
    · intro more
      apply ofText_of_prefix
      rw [fields_append, fields_slots h]
      exact List.prefix_append ..
    · exact fun k hk hle => values_ofText_take h hk hle
  · intro text
    refine ⟨(fields_eq_iff.mp rfl).2, ?_⟩
    intro i content hi h
    constructor
    · intro j hne
      exact getElem?_values_withSlot_of_ne h hne
    · intro kind hkind
      exact exists_counts_withSlot h hi hkind

/-- A status with numbers at the ends of their ranges and texts that look like numbers. -/
def extremeStatus : Status :=
  { edition := "MCEE", motd := "§c☃", protocolVersion := -0x80000000, onlinePlayers := 0x7FFFFFFF,
    maxPlayers := -1, serverId := "+1", levelName := "-", gameMode := " ", ipv4Port := 0xFFFF,
    extra := "0" }

/-- A status text with one slot too many and one that holds no number. -/
def longText : String := "MCPE;motd;x;1.20;2;10;id;level;Survival;1;19132;19133;extra;more"

theorem statuses_read_by_slot_of_extremes :
    Status.ofText (";".intercalate extremeStatus.slots ++ ";" ++ "1;;") = extremeStatus ∧
    (Status.ofText (";".intercalate (extremeStatus.slots.take 5))).values =
      extremeStatus.values.take 5 ++ ({} : Status).values.drop 5 ∧
    (Status.ofText (withSlot longText 10 "65536")).values[2]? =
      (Status.ofText longText).values[2]? ∧
    ∃ value, (Status.ofText (withSlot longText 10 "65536")).values[10]? = some value ∧
      Counts .port "65536" value := by
  have htexts : ∀ content, .text content ∈ extremeStatus.values → ';' ∉ content.toList := by
    simp [Status.values, extremeStatus]
  obtain ⟨hstatus, htext⟩ := statuses_read_by_slot
  obtain ⟨-, hmore, htake⟩ := hstatus extremeStatus htexts
  obtain ⟨hothers, hslot⟩ := (htext longText).2 10 "65536" (by decide) (by decide)
  exact ⟨hmore "1;;", htake 5 (by decide) (by decide), hothers 2 (by decide), hslot .port rfl⟩

end GameProbe.Bedrock
