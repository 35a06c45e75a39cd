import GameProbe.Proofs.Framing
import GameProbe.Proofs.Status.Operations
import GameProbe.Proofs.Transport.Cut
import GameProbe.Proofs.Transport.Quiet

/-!
# Latencies

The latency of a probe is the time since a timestamp that the server has put into its pong. A server
may put anything there. Far enough before the epoch, the time since then is more than 64 bits with a
sign can tell, and the program stops instead of reporting a latency.
-/

namespace GameProbe

/-- The time since a timestamp, as an exact number, when the answer has been decoded. -/
def Timing.elapsed (timing : Timing) (timestamp : Int64) : Int :=
  timing.receivedAt.toInt - timestamp.toInt

/-- What the time between two others comes to: it is exact if 64 bits with a sign can tell it, and
if they cannot, the program stops. -/
inductive Elapsed (later earlier : Int64) : Checked Int64 → Prop
  | exact {n : Int64} (h : n.toInt = later.toInt - earlier.toInt) : Elapsed later earlier (.value n)
  | overflow (h : later.toInt - earlier.toInt < -2 ^ 63 ∨ 2 ^ 63 ≤ later.toInt - earlier.toInt) :
    Elapsed later earlier .overflow

lemma elapsed_sub (later earlier : Int64) : Elapsed later earlier (.sub later earlier) := by
  rw [Checked.sub]
  split
  · rename_i h
    exact .exact h
  · rename_i h
    refine .overflow ?_
    by_contra hfits
    rw [not_or, not_lt, not_le] at hfits
    exact h (Int64.toInt_sub later earlier ▸ Int.bmod_eq_of_le hfits.1 hfits.2)

namespace Status

open EStateM.Result Carrier Decoder Wire

/-! ### Pongs -/

/-- The bytes are a pong with the timestamp. The numbers before it may be told with needless digits,
and there may be more in the frame behind it. -/
inductive Echoes (timestamp : Int64) : Bytes → Prop
  | frame {field run extra : Bytes} {length : UInt64} (h : Framed field run length)
    (hbody : Tells run pingId (int64BE timestamp ++ extra)) : Echoes timestamp (field ++ run)

/-- A probe is a pong itself. -/
lemma echoes_pingRequest (timestamp : Int64) : Echoes timestamp (pingRequest timestamp) := by
  have hlength : (uvarint pingId ++ int64BE timestamp).length ≤ maxFrameLength := by
    rw [List.length_append, int64BE, length_uint64BE]
    have hid := length_uvarint_le pingId
    exact Nat.le_trans (Nat.add_le_add_right hid 8) (by decide)
  have hbody : Tells (uvarint pingId ++ int64BE timestamp) pingId (int64BE timestamp ++ []) := by
    rw [List.append_nil]
    exact tells_uvarint pingId _
  exact .frame (framed_frame hlength) hbody

lemma readPong_of_echoes {timestamp : Int64} {bytes : Bytes} (h : Echoes timestamp bytes) :
    ∃ pong, readPong bytes = .ok pong [] ∧ pong.payload = timestamp := by
  cases h with
  | @frame field run extra length h hbody =>
    have hpayload : (readUInt64BE.within (int64BE timestamp ++ extra) : Decoder Bytes UInt64) [] =
        .ok timestamp.toUInt64 [] :=
      within_eq_ok_iff.mpr ⟨⟨extra, readUInt64BE_append _ _⟩, rfl⟩
    refine ⟨{ length := length.toNat, packetId := pingId, payload := timestamp }, ?_, rfl⟩
    rw [readPong, bind_of_ok (readFrameOf_of_tells h hbody), bind_of_ok hpayload]
    rfl

/-! ### Probes -/

/-- A time that is not before the epoch goes wrong in one direction only. -/
lemma since_of_epoch {timing : Timing} (timestamp : Int64)
    (hclock : 0 ≤ timing.receivedAt.toInt) :
    (timing.elapsed timestamp < 2 ^ 63 → ∃ latency, timing.since timestamp = .value latency ∧
      latency.toInt = timing.elapsed timestamp) ∧
    (2 ^ 63 ≤ timing.elapsed timestamp → timing.since timestamp = .overflow) := by
  have hmax : timestamp.toInt < 2 ^ 63 := timestamp.toInt_lt
  have helapsed : Elapsed timing.receivedAt timestamp (timing.since timestamp) := elapsed_sub _ _
  rw [Timing.elapsed]
  cases hsince : timing.since timestamp with
  | value latency =>
    rw [hsince] at helapsed
    cases helapsed with
    | exact hexact =>
      have hfits : latency.toInt < 2 ^ 63 := latency.toInt_lt
      exact ⟨fun _ => ⟨latency, rfl, hexact⟩, fun hlong => by omega⟩
  | overflow =>
    rw [hsince] at helapsed
    cases helapsed with
    | overflow hunfit => exact ⟨fun hshort => by omega, fun _ => rfl⟩

namespace Session

variable {σ : Type} [StreamTransport σ] [Carrier σ Traffic] {session : Session σ} {s : σ}
  {timestamp : Int64} {bytes : Bytes} {rest : List (Except Fault UInt8)}

/-- The session behind a pong: all of that has been read, and a probe has been written. -/
lemma ping_of_echoes (timing : Timing) (hphase : session.phase = .handshakeDone)
    (hlink : session.link = .connected s) (hquiet : (view s).Quiet) (hecho : Echoes timestamp bytes)
    (hincoming : (view s).incoming = bytes.map .ok ++ rest) :
    ∃ s', ping timing session = .ok (timing.since timestamp)
        { session with link := .connected s', phase := .pingDone } ∧
      view s' = { view s with
        incoming := rest, written := (view s).written ++ pingRequest timing.sentAt } := by
  obtain ⟨pong, hread, rfl⟩ := readPong_of_echoes hecho
  obtain ⟨s₁, hview₁, hask⟩ :=
    ask_of_quiet hquiet session.config (pingRequest timing.sentAt) readPong
  have hincoming₁ : (view s₁).incoming = bytes.map .ok ++ rest := by
    rw [hview₁]
    exact hincoming
  have hpong := (mirrors_readPong.settles_of_ok hread).stream s₁ _
    (Traffic.gives_of_incoming hincoming₁)
  obtain ⟨s₂, hread₂, hview₂⟩ := mapState_eq_ok_iff.mp hpong
  refine ⟨s₂, ?_, by rw [hview₂, hview₁]⟩
  rw [ping_of_connected timing hphase hlink, show probe session timing s = _ from hask, hread₂]

/-- A ping behind a handshake, with a pong to come that may hold any timestamp, reads just the pong,
whatever comes behind it, and counts as done. With a clock that does not stand before the epoch, it
brings the exact time since the timestamp if 64 bits with a sign can tell it. If they cannot, it
does not come to its end: the program stops. -/
theorem ping_tells_time_since_echo (timing : Timing) (hphase : session.phase = .handshakeDone)
    (hlink : session.link = .connected s) (hquiet : (view s).Quiet) (hecho : Echoes timestamp bytes)
    (hincoming : (view s).incoming = bytes.map .ok ++ rest)
    (hclock : 0 ≤ timing.receivedAt.toInt) :
    ∃ outcome s', ping timing session = .ok outcome
        { session with link := .connected s', phase := .pingDone } ∧
      view s' = { view s with
        incoming := rest, written := (view s).written ++ pingRequest timing.sentAt } ∧
      (timing.elapsed timestamp < 2 ^ 63 → ∃ latency, outcome = .value latency ∧
        latency.toInt = timing.elapsed timestamp) ∧
      (2 ^ 63 ≤ timing.elapsed timestamp → outcome = .overflow) := by
  obtain ⟨s', hping, hview⟩ := ping_of_echoes timing hphase hlink hquiet hecho hincoming
  exact ⟨_, s', hping, hview, since_of_epoch timestamp hclock⟩

/-- A session behind its handshake, to which a pong with the timestamp is to come, and one byte and
a failure behind it. -/
def echoSession (timestamp : Int64) : Session (Cut Traffic) where
  host := "localhost"
  port := 25565
  parse := Json.parseObject
  link := .connected
    { peer.incoming := (pingRequest timestamp).map .ok ++ [.ok 7, .error Fault.timedOut]
      reads := [some 0, none, some 2] }
  phase := .handshakeDone

theorem ping_tells_time_since_own_probe :
    ∃ latency session', ping { sentAt := 5, receivedAt := 7, roundTrip := 2 } (echoSession 5) =
      .ok (.value latency) session' ∧ latency.toInt = 2 := by
  obtain ⟨outcome, s', hping, -, hfits, -⟩ :=
    ping_tells_time_since_echo { sentAt := 5, receivedAt := 7, roundTrip := 2 }
      (rfl : (echoSession 5).phase = _) rfl ⟨rfl, rfl, rfl⟩ (echoes_pingRequest 5) rfl (by decide)
  obtain ⟨latency, rfl, hlatency⟩ := hfits (by decide)
  exact ⟨latency, _, hping, hlatency⟩

/-- The least timestamp there is is so long ago that a well-formed pong stops the program. -/
theorem ping_stopped_by_least_timestamp :
    Echoes Int64.minValue (pingRequest Int64.minValue) ∧
    Timing.elapsed { sentAt := 0, receivedAt := 0, roundTrip := 0 } Int64.minValue = 2 ^ 63 ∧
    ∃ session', ping { sentAt := 0, receivedAt := 0, roundTrip := 0 } (echoSession Int64.minValue) =
      .ok .overflow session' := by
  obtain ⟨s', hping, -⟩ := ping_of_echoes { sentAt := 0, receivedAt := 0, roundTrip := 0 }
    (rfl : (echoSession Int64.minValue).phase = _) rfl ⟨rfl, rfl, rfl⟩ (echoes_pingRequest _) rfl
  exact ⟨echoes_pingRequest _, by decide, _, hping⟩

end Session

end Status

end GameProbe
