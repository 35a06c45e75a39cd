import GameProbe.Proofs.Text.Utf8
import GameProbe.Proofs.Wire.Fixed
import GameProbe.Proofs.Wire.Varint

/-!
# Reading lists and texts back

A list of unknown length is read back item by item up to what ends it. A text is such a list of
bytes if a zero byte ends it, and a run of bytes if its length comes first.
-/

namespace GameProbe.Wire

variable {α : Type} {text : String}

/-! ### Lists of unknown length -/

/-- What reads each item, whatever follows, and then the end of the list reads the whole list. -/
lemma collect_flatMap {step : Decoder Bytes (Option α)} (consumes : step.Consumes 1)
    {items : List α} {encode : α → Bytes} {stop x : Bytes}
    (hitem : ∀ a ∈ items, ∀ x, step (encode a ++ x) = .ok (some a) x)
    (hstop : step (stop ++ x) = .ok none x) :
    collect step consumes (items.flatMap encode ++ (stop ++ x)) = .ok items x := by
  suffices ∀ got, collectFrom step consumes got (items.flatMap encode ++ (stop ++ x)) =
      .ok (got.reverse ++ items) x from this []
  induction items with
  | nil =>
    intro got
    rw [List.flatMap_nil, List.nil_append, collectFrom_eq_bind, bind_of_ok hstop, List.append_nil]
    rfl
  | cons a items ih =>
    intro got
    have hfirst := hitem a List.mem_cons_self (items.flatMap encode ++ (stop ++ x))
    have hrest := ih fun b hb => hitem b (List.mem_cons_of_mem a hb)
    rw [List.flatMap_cons, List.append_assoc, collectFrom_eq_bind, bind_of_ok hfirst]
    exact (hrest (a :: got)).trans (by simp)

/-! ### Texts behind which a zero byte comes -/

/-- The bytes before the first zero byte are read, and the zero byte with them. -/
lemma readCstringBytes_append {bytes : Bytes} (h : 0 ∉ bytes) (x : Bytes) :
    readCstringBytes (bytes ++ 0 :: x) = .ok bytes x := by
  have hitem : ∀ b ∈ bytes, ∀ x, readNonzero ([b] ++ x) = .ok (some b) x := by
    intro b hb x
    have hne : b ≠ 0 := fun hzero => h (hzero ▸ hb)
    rw [readNonzero, List.singleton_append, bind_of_ok (readByte_cons b x), if_neg hne]
    rfl
  have hstop : readNonzero ([0] ++ x) = .ok none x := bind_of_ok (readByte_cons 0 x)
  have hread := collect_flatMap consumes_readNonzero hitem hstop
  rwa [List.flatMap_singleton'] at hread

/-- Without a zero byte the end of a text is looked for in vain. -/
lemma readCstringBytes_of_notMem {run : Bytes} (h : 0 ∉ run) : ∃ expected received,
    received < expected ∧
      readCstringBytes run = .error (.connectionClosed expected received) [] := by
  -- one more byte would end it, and without that the stream is found closed
  obtain ⟨c, hc, htakes⟩ := selfDelimiting_collect consumes_readNonzero
    (selfDelimiting_readByte.map _) _ _ _ (readCstringBytes_append h [])
  rw [List.append_nil] at hc
  exact htakes.truncated run (hc ▸ List.prefix_append run [0]) (by simp [← hc])

lemma readCstringBytes_eq_ok_iff {run bytes rest : Bytes} :
    readCstringBytes run = .ok bytes rest ↔ run = bytes ++ 0 :: rest ∧ 0 ∉ bytes := by
  constructor
  · intro hread
    by_cases h : 0 ∈ run
    · obtain ⟨before, behind, rfl, hbefore⟩ := List.eq_append_cons_of_mem h
      rw [readCstringBytes_append hbefore] at hread
      cases hread
      exact ⟨rfl, hbefore⟩
    · obtain ⟨expected, received, -, hclosed⟩ := readCstringBytes_of_notMem h
      rw [hclosed] at hread
      cases hread
  · rintro ⟨rfl, hbytes⟩
    exact readCstringBytes_append hbytes rest

/-- A text without the zero character is read back. -/
lemma readCstring_cstring (h : '\x00' ∉ text.toList) (x : Bytes) :
    readCstring (cstring text ++ x) = .ok text x := by
  have hread := readCstringBytes_append (Utf8.zero_notMem_encode h) x
  rw [readCstring, cstring, List.append_assoc, List.singleton_append, bind_of_ok hread,
    Utf8.decodeLossy_encode]
  rfl

/-! ### Texts before which their length comes -/

/-- A run of bytes is read back. -/
lemma readBytes_append (bytes x : Bytes) : readBytes bytes.length (bytes ++ x) = .ok bytes x := by
  rw [readBytes_apply, if_pos (by simp), List.take_left, List.drop_left]

/-- A text is read back whose length 64 bits can tell. -/
lemma readPrefixedString_prefixedString (h : (Utf8.encode text).length < 2 ^ 64) (x : Bytes) :
    readPrefixedString (prefixedString text ++ x) = .ok text x := by
  have hlength : (UInt64.ofNat (Utf8.encode text).length).toNat = (Utf8.encode text).length :=
    UInt64.toNat_ofNat_of_lt' h
  rw [readPrefixedString, prefixedString, List.append_assoc,
    bind_of_ok (readUvarint_base128 h _), hlength, bind_of_ok (readBytes_append _ _),
    Utf8.decodeLossy_encode]
  rfl

end GameProbe.Wire
