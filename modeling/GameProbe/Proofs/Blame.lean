import GameProbe.Proofs.Framing

/-!
# What a bad frame is blamed on

Once a frame has come whole, the connection has done its part, and only the contents can be at
fault. Yet the contents are read as a stream of their own: where they end within a number, a text or
a run of bytes, the failure is the one of a stream that was closed. Every other failure is put down
to what the server said.
-/

namespace GameProbe

open EStateM.Result Decoder Wire

variable {α β : Type}

/-! ### Verdicts -/

/-- What comes of reading contents that are all there, where `cut` says that they break off: a
value, the failure of a closed stream, or a failure that lies in what they say. -/
inductive Verdict (cut : Prop) : Except Error α → Prop
  | accepted (h : ¬cut) (a : α) : Verdict cut (.ok a)
  | brokenOff (h : cut) {expected received : Nat} (hlt : received < expected) :
    Verdict cut (.error (.connectionClosed expected received))
  | malformed (h : ¬cut) {e : Error} (hprotocol : e.isProtocol = true)
    (htransport : e.isTransport = false) : Verdict cut (.error e)

namespace Verdict

variable {cut cut' : Prop} {run s : Bytes} {d : Decoder Bytes α} {f : α → Decoder Bytes β}

lemma congr {result : Except Error α} (h : Verdict cut result) (hcut : cut ↔ cut') :
    Verdict cut' result := propext hcut ▸ h

/-- A failure is the same whatever was to be read. -/
lemma of_error {e : Error} (h : Verdict cut (.error e : Except Error α)) :
    Verdict cut (.error e : Except Error β) := by
  cases h with
  | brokenOff h hlt => exact .brokenOff h hlt
  | malformed h hprotocol htransport => exact .malformed h hprotocol htransport

lemma map {result : Except Error α} (h : Verdict cut result) (g : α → β) :
    Verdict cut (result.map g) := by
  cases result with
  | error e => exact h.of_error
  | ok a =>
    cases h with
    | accepted h => exact .accepted h (g a)

lemma within (h : Verdict cut (d run).toExcept) :
    Verdict cut ((d.within run : Decoder Bytes α) s).toExcept := by
  rwa [toExcept_within]

/-- A sequence breaks off in its first part, or behind what the first part has read. -/
lemma bind {cutBehind : α → Bytes → Prop} (hd : Verdict cut (d s).toExcept)
    (hf : ∀ a rest, d s = .ok a rest → Verdict (cutBehind a rest) (f a rest).toExcept) :
    Verdict (cut ∨ ∃ a rest, d s = .ok a rest ∧ cutBehind a rest) ((d >>= f) s).toExcept := by
  cases hs : d s with
  | ok a rest =>
    rw [hs] at hd
    rw [bind_of_ok hs]
    have hcut : ¬cut := by
      cases hd with
      | accepted h => exact h
    refine (hf a rest hs).congr ⟨fun h => .inr ⟨a, rest, rfl, h⟩, ?_⟩
    rintro (h | ⟨_, _, ⟨⟩, h⟩)
    · exact absurd h hcut
    · exact h
  | error e rest =>
    have hcut : cut ↔ cut ∨ ∃ a rest', error e rest = .ok a rest' ∧ cutBehind a rest' := by simp
    rw [hs] at hd
    rw [bind_of_error hs]
    exact hd.of_error.congr hcut

/-- Nothing breaks off behind what the first part has read. -/
lemma bind_of_uncut (hd : Verdict cut (d s).toExcept)
    (hf : ∀ a rest, Verdict False (f a rest).toExcept) : Verdict cut ((d >>= f) s).toExcept :=
  (hd.bind fun a rest _ => hf a rest).congr (by simp)

end Verdict

/-- Whatever the contents are, `cut` says whether the decoder finds that they break off. -/
def Decoder.Judges (d : Decoder Bytes α) (cut : Bytes → Prop) : Prop :=
  ∀ run, Verdict (cut run) (d run).toExcept

namespace Decoder.Judges

variable {d : Decoder Bytes α} {cut cut' : Bytes → Prop}

lemma congr (hd : d.Judges cut) (hcut : ∀ run, cut run ↔ cut' run) : d.Judges cut' :=
  fun run => (hd run).congr (hcut run)

lemma map (hd : d.Judges cut) (g : α → β) : Judges (d >>= fun a => pure (g a)) cut := by
  intro run
  rw [toExcept_bind_pure]
  exact (hd run).map g

lemma bind {f : α → Decoder Bytes β} {cutBehind : α → Bytes → Prop} (hd : d.Judges cut)
    (hf : ∀ a, (f a).Judges (cutBehind a)) :
    Judges (d >>= f) fun run => cut run ∨ ∃ a rest, d run = .ok a rest ∧ cutBehind a rest :=
  fun run => (hd run).bind fun a rest _ => hf a rest

/-- What reads exactly `n` bytes finds fewer to break off. -/
lemma of_run {d : Decoder Bytes Bytes} {n : Nat}
    (h : ∀ b, d b = if n ≤ b.length then .ok (b.take n) (b.drop n)
      else .error (.connectionClosed n b.length) []) : d.Judges (·.length < n) := by
  intro run
  rw [h]
  split
  · rename_i hle
    exact .accepted (Nat.not_lt.mpr hle) _
  · rename_i hlt
    exact .brokenOff (Nat.lt_of_not_le hlt) (Nat.lt_of_not_le hlt)

end Decoder.Judges

/-! ### Numbers and texts -/

lemma judges_readBytes (n : Nat) : Judges (readBytes n) (·.length < n) :=
  .of_run (readBytes_apply n)

lemma judges_readByte : Judges readByte (·.length < 1) := (Judges.of_run (fill_apply 1)).map _

namespace Wire

lemma judges_readInt32LE : Judges readInt32LE (·.length < 4) :=
  ((Judges.of_run (fill_apply 4)).map _).map _

lemma judges_readUInt64BE : Judges readUInt64BE (·.length < 8) :=
  (Judges.of_run (fill_apply 8)).map _

/-- What is a numeral, or has too many digits, does not break off. -/
lemma judges_readUvarint : Judges readUvarint (Unfinished 10) := by
  refine Judges.map (fun run => ?_) _
  have hclosed {expected received : Nat} {rest : Bytes} :
      readBase128 10 1 run = .error (.connectionClosed expected received) rest ↔ _ :=
    readBase128_eq_closed_iff (by decide)
  have hreads : ReadsDigits 10 1 run _ := readsDigits_readBase128 (by decide) 9 run
  cases hread : readBase128 10 1 run with
  | ok n rest =>
    refine .accepted (fun h => ?_) n
    rw [hread] at hclosed
    cases hclosed.mpr ⟨h, rfl, rfl, rfl⟩
  | error e rest =>
    rw [hread] at hreads hclosed
    cases hreads with
    | overlong h =>
      refine .malformed (fun h => ?_) rfl rfl
      cases hclosed.mpr ⟨h, rfl, rfl, rfl⟩
    | unfinished h => exact .brokenOff h Nat.zero_lt_one

/-- A text breaks off if no zero byte ends it. -/
lemma judges_readCstringBytes : Judges readCstringBytes (0 ∉ ·) := by
  intro run
  by_cases h : 0 ∈ run
  · obtain ⟨text, rest, rfl, htext⟩ := List.eq_append_cons_of_mem h
    rw [readCstringBytes_append htext]
    exact .accepted (not_not_intro h) text
  · obtain ⟨expected, received, hlt, hread⟩ := readCstringBytes_of_notMem h
    rw [hread]
    exact .brokenOff h hlt

end Wire

/-! ### Status -/

namespace Status

variable {field run : Bytes} {length packetId : UInt64}

/-- The body of a status breaks off, within the length of its text or within the text. -/
inductive TextBreaksOff (body : Bytes) : Prop
  | inLength (h : Unfinished 10 body)
  | inText {length : UInt64} {text : Bytes} (h : Tells body length text)
    (hlt : text.length < length.toNat)

/-- The contents of a frame break off, within the packet id or, if that is the awaited one, within
the body, where `cut` says which bodies do. -/
inductive BreaksOff (packetId : UInt64) (cut : Bytes → Prop) (run : Bytes) : Prop
  | inPacketId (h : Unfinished 10 run)
  | inBody {body : Bytes} (h : Tells run packetId body) (hcut : cut body)

lemma judges_readPacket : Judges readPacket (Unfinished 10) :=
  fun run => (judges_readUvarint run).bind_of_uncut fun id body => .accepted not_false (id, body)

lemma judges_readProperties (parse : Parser) : Judges (readProperties parse) TextBreaksOff := by
  refine Judges.congr (judges_readUvarint.bind fun length body =>
    (judges_readBytes length.toNat body).bind_of_uncut fun text rest => ?_) fun body => ?_
  · cases parse text with
    | ok properties => exact .accepted not_false properties
    | error e => exact .malformed not_false rfl rfl
  · constructor
    · rintro (h | ⟨length, text, hread, hlt⟩)
      · exact .inLength h
      · exact .inText (readUvarint_eq_ok_iff_tells.mp hread) hlt
    · rintro (h | ⟨h, hlt⟩)
      · exact .inl h
      · exact .inr ⟨_, _, readUvarint_eq_ok_iff_tells.mpr h, hlt⟩

lemma verdict_readFrame (h : Framed field run length) :
    Verdict (Unfinished 10 run) (readFrame (field ++ run)).toExcept := by
  rw [readFrame_framed h, toExcept_bind_pure]
  exact (judges_readPacket run).within.map _

lemma verdict_readFrameOf (packetId : UInt64) (h : Framed field run length) :
    Verdict (Unfinished 10 run) (readFrameOf packetId (field ++ run)).toExcept := by
  refine (verdict_readFrame h).bind_of_uncut fun frame rest => ?_
  dsimp only
  split
  · exact .malformed not_false rfl rfl
  · exact .accepted not_false frame

/-- What is read of the body of a frame breaks off where the frame does. -/
lemma verdict_within_frameOf {α β : Type} {d : Decoder Bytes α} {cut : Bytes → Prop}
    (hd : d.Judges cut) (h : Framed field run length) (g : Frame → α → β) :
    Verdict (BreaksOff packetId cut run) ((readFrameOf packetId >>= fun frame =>
      (d.within frame.body : Decoder Bytes α) >>= fun a => pure (g frame a))
        (field ++ run)).toExcept := by
  have hbody (frame : Frame) (rest : Bytes) : Verdict (cut frame.body)
      (((d.within frame.body : Decoder Bytes α) >>= fun a => pure (g frame a)) rest).toExcept := by
    rw [toExcept_bind_pure]
    exact (hd frame.body).within.map _
  refine ((verdict_readFrameOf packetId h).bind fun frame rest _ => hbody frame rest).congr ?_
  constructor
  · rintro (hid | ⟨frame, rest, hread, hcut⟩)
    · exact .inPacketId hid
    · exact .inBody (tells_of_readFrameOf h hread) hcut
  · rintro (hid | ⟨hid, hcut⟩)
    · exact .inl hid
    · exact .inr ⟨_, _, readFrameOf_of_tells h hid, hcut⟩

lemma verdict_readResponse (parse : Parser) (h : Framed field run length) :
    Verdict (BreaksOff handshakeId TextBreaksOff run)
      (readResponse parse (field ++ run)).toExcept :=
  verdict_within_frameOf (judges_readProperties parse) h _

lemma verdict_readPong (h : Framed field run length) :
    Verdict (BreaksOff pingId (·.length < 8) run) (readPong (field ++ run)).toExcept :=
  verdict_within_frameOf judges_readUInt64BE h _

end Status

/-! ### Remote console -/

namespace Rcon

variable {run : Bytes}

/-- What comes behind a number breaks off if the number does, and so the number need not be looked
at. -/
lemma judges_behind_int32 {α : Type} {f : Int32 → Decoder Bytes α} {cut : Bytes → Prop}
    (hf : ∀ n, (f n).Judges cut) (hnil : cut []) :
    Judges (readInt32LE >>= f) fun run => cut (run.drop 4) := by
  refine (judges_readInt32LE.bind hf).congr fun run => ?_
  rw [readInt32LE_apply]
  split
  · rename_i hle
    simp [Nat.not_lt.mpr hle]
  · rename_i hlt
    have hlt : run.length < 4 := Nat.lt_of_not_le hlt
    simpa [hlt, List.drop_of_length_le (Nat.le_of_lt hlt)]

/-- A text and the padding behind it break off if no zero byte comes before the last byte. -/
lemma judges_text_padding {α : Type} (g : Bytes → UInt8 → α) :
    Judges (do
      let payload ← readCstringBytes
      let padding ← readByte
      return g payload padding) fun run => 0 ∉ run.dropLast := by
  refine Judges.congr (judges_readCstringBytes.bind fun payload => judges_readByte.map (g payload))
    fun run => ?_
  by_cases h : 0 ∈ run
  · obtain ⟨payload, rest, rfl, hpayload⟩ := List.eq_append_cons_of_mem h
    rw [readCstringBytes_append hpayload]
    cases rest with
    | nil => simp [hpayload]
    | cons b rest => simp [hpayload]
  · have hdrop : 0 ∉ run.dropLast := fun hmem =>
      h ((List.dropLast_sublist run).subset hmem)
    simp [h, hdrop]

lemma judges_readBody (length : UInt32) :
    Judges (readBody length) fun run => 0 ∉ (run.drop 8).dropLast := by
  refine Judges.congr (judges_behind_int32 (fun requestId => judges_behind_int32
    (fun type => judges_text_padding _) ?_) ?_) fun run => ?_
  · simp
  · simp
  · rw [List.drop_drop]

end Rcon

/-! ### All of them -/

section

variable {σ π : Type} [StreamTransport σ] [Peer π] [Carrier σ π]

/-- The bytes decide what the decoder brings. If they break off, as `cut` says, that is the failure
of a closed stream, and every other failure lies in what they say. -/
def Decoder.Judged (d : Decoder σ α) (d' : Decoder Bytes α) (c : Bytes) (cut : Prop) : Prop :=
  ∃ result, Settles d d' c result ∧ Verdict cut result

lemma Decoder.Settled.judged {d : Decoder σ α} {d' : Decoder Bytes α} {c : Bytes} {cut : Prop}
    (hd : Settled d d' c) (h : Verdict cut (d' c).toExcept) : Judged d d' c cut :=
  ⟨_, hd.settles, h⟩

/-- A frame that has come whole, of a status, of a pong or of a remote console, is not always taken
for a bad one when it cannot be read. Where its contents break off, in the packet id, in the length
of a status or in its text, in the timestamp of a pong, or with no zero byte before the last byte of
a packet, the connection is blamed for having been closed. It is the server that is blamed for
everything else. -/
theorem whole_frames_judged :
    (∀ field run length, Status.Framed field run length →
      Judged (Status.readFrame : Decoder σ Status.Frame) Status.readFrame (field ++ run)
        (Unfinished 10 run) ∧
      (∀ parse, Judged (Status.readResponse parse : Decoder σ Status.Response)
        (Status.readResponse parse) (field ++ run)
        (Status.BreaksOff Status.handshakeId Status.TextBreaksOff run)) ∧
      Judged (Status.readPong : Decoder σ Status.Pong) Status.readPong (field ++ run)
        (Status.BreaksOff Status.pingId (·.length < 8) run)) ∧
    (∀ length run, Rcon.Framed length run →
      Judged (Rcon.readPacket : Decoder σ Rcon.Packet) Rcon.readPacket (uint32LE length ++ run)
        (0 ∉ (run.drop 8).dropLast)) := by
  constructor
  · intro field run length h
    refine ⟨?_, ?_, ?_⟩
    · exact (Status.settled_readFrame h).judged (Status.verdict_readFrame h)
    · intro parse
      exact (Status.settled_readResponse parse h).judged (Status.verdict_readResponse parse h)
    · exact (Status.settled_readPong h).judged (Status.verdict_readPong h)
  · intro length run h
    exact ⟨_, Rcon.settles_readPacket h, Rcon.judges_readBody length run⟩

end

lemma framed_empty : Status.Framed [0] [] 0 where
  tells := ⟨[], 0, rfl, .nil (by decide) nofun, rfl⟩
  length_eq := rfl
  length_le := by decide

lemma framed_ones : Rcon.Framed 10 (.replicate 10 1) where
  length_eq := rfl
  le_length := by decide
  length_le := by decide

/-- An empty frame breaks off, and so does a packet of ones. -/
theorem whole_frames_judged_of_short_contents :
    Judged (Status.readResponse Json.parseObject : Decoder (Cut Traffic) Status.Response)
      (Status.readResponse Json.parseObject) [0] True ∧
    Judged (Rcon.readPacket : Decoder (Cut Traffic) Rcon.Packet) Rcon.readPacket
      (uint32LE 10 ++ .replicate 10 1) True := by
  obtain ⟨hstatus, hrcon⟩ := whole_frames_judged (σ := Cut Traffic)
  constructor
  · obtain ⟨-, hread, -⟩ := hstatus _ _ _ framed_empty
    obtain ⟨result, hsettles, hverdict⟩ := hread Json.parseObject
    have hcut : Status.BreaksOff Status.handshakeId Status.TextBreaksOff [] := .inPacketId (.nil 9)
    exact ⟨result, hsettles, hverdict.congr (iff_true_intro hcut)⟩
  · obtain ⟨result, hsettles, hverdict⟩ := hrcon _ _ framed_ones
    exact ⟨result, hsettles, hverdict.congr (iff_true_intro (by decide))⟩

/-- An empty frame, a pong without its timestamp and a packet of ones have come whole, and the
connection is blamed for each of them. -/
theorem connection_blamed_for_short_contents :
    Status.Framed [0] [] 0 ∧ Status.Framed [1] [1] 1 ∧ Rcon.Framed 10 (.replicate 10 1) ∧
    (Status.readResponse Json.parseObject ([0] : Bytes)).toExcept = .error (.connectionClosed 1 0) ∧
    (Status.readPong ([1, 1] : Bytes)).toExcept = .error (.connectionClosed 8 0) ∧
    (Rcon.readPacket (uint32LE 10 ++ .replicate 10 1)).toExcept = .error (.connectionClosed 1 0) ∧
    ∀ expected received, (Error.connectionClosed expected received).isProtocol = false ∧
      (Error.connectionClosed expected received).isTransport = true := by
  refine ⟨framed_empty, ⟨⟨[], 1, rfl, ?_, rfl⟩, rfl, by decide⟩, framed_ones, ?_, ?_, ?_, ?_⟩
  · exact .nil (by decide) nofun
  · with_unfolding_all rfl
  · with_unfolding_all rfl
  · with_unfolding_all rfl
  · exact fun _ _ => ⟨rfl, rfl⟩

end GameProbe
