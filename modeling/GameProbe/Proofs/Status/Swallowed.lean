import GameProbe.Proofs.Status.Latency
import GameProbe.Proofs.Status.Reissue
import GameProbe.Proofs.Wire.Numerals

/-!
# Answers that a status takes for granted

What a status makes of whatever a server says. If another packet comes in the place of the pong, it
is read whole and then ignored, and a new probe can be sent behind it. Every other failure is the
failure of the status.
-/

namespace GameProbe

open EStateM.Result Carrier Decoder

/-- The server answered with another packet. -/
inductive Error.Unexpected : Error → Prop
  | packet (expected actual : Int64) : Unexpected (.unexpectedPacket expected actual)

namespace Decoder

variable {α β : Type} {d : Decoder Bytes α} {f : α → Decoder Bytes β}

/-- The decoder never fails because of a packet id. -/
def IgnoresIds (d : Decoder Bytes α) : Prop :=
  ∀ b e rest, d b = .error e rest → ¬e.Unexpected

lemma IgnoresIds.pure (a : α) : IgnoresIds (pure a) := nofun

lemma IgnoresIds.throw {e : Error} (h : ¬e.Unexpected) :
    IgnoresIds (throw e : Decoder Bytes α) := by
  intro b e' rest he
  cases he
  exact h

lemma IgnoresIds.bind (hd : IgnoresIds d) (hf : ∀ a, IgnoresIds (f a)) : IgnoresIds (d >>= f) := by
  intro b e rest he
  cases h : d b with
  | ok a left =>
    rw [bind_of_ok h] at he
    exact hf a left e rest he
  | error e' left =>
    rw [bind_of_error h] at he
    cases he
    exact hd b e _ h

lemma IgnoresIds.within (hd : IgnoresIds d) (run : Bytes) :
    IgnoresIds (d.within run : Decoder Bytes α) := by
  intro b e rest he
  obtain ⟨⟨left, hrun⟩, -⟩ := within_eq_error_iff.mp he
  exact hd run e left hrun

/-- What reads exactly `n` bytes only fails when they do not come. -/
lemma IgnoresIds.of_run {d : Decoder Bytes Bytes} {n : Nat}
    (hd : ∀ b, d b = if n ≤ b.length then .ok (b.take n) (b.drop n)
      else .error (.connectionClosed n b.length) []) : IgnoresIds d := by
  intro b e rest he
  rw [hd] at he
  split at he
  · cases he
  · cases he
    exact nofun

end Decoder

/-! ### Frames in the place of a pong -/

namespace Status

open Wire

variable {bytes left rest : Bytes}

lemma ignoresIds_readUvarint : IgnoresIds readUvarint := by
  refine IgnoresIds.bind ?_ fun n => .pure _
  intro b e rest he
  have hreads : ReadsDigits 10 1 b _ := readsDigits_readBase128 (by decide) 9 b
  rw [he] at hreads
  cases hreads with
  | overlong => exact nofun
  | unfinished => exact nofun

/-- A frame is read whatever its packet id is. -/
lemma ignoresIds_readFrame : IgnoresIds readFrame := by
  have hpacket : IgnoresIds readPacket :=
    ignoresIds_readUvarint.bind fun id => IgnoresIds.bind nofun fun rest => .pure _
  refine ignoresIds_readUvarint.bind fun length => ?_
  dsimp only
  split
  · exact .throw nofun
  · exact (IgnoresIds.of_run (readBytes_apply _)).bind fun run =>
      (hpacket.within run).bind fun _ => .pure _

lemma ignoresIds_readUInt64BE : IgnoresIds readUInt64BE :=
  (IgnoresIds.of_run (fill_apply 8)).bind fun _ => .pure _

/-- Reading a pong fails because of a packet id just if there is a frame with another one. That
frame is then read whole, whatever is in it. -/
lemma readPong_unexpected_iff :
    (∃ e, readPong bytes = .error e rest ∧ e.Unexpected) ↔
      ∃ frame, readFrame bytes = .ok frame rest ∧ frame.packetId ≠ pingId := by
  constructor
  · rintro ⟨e, hread, hunexpected⟩
    cases hframe : readFrame bytes with
    | error e' left =>
      rw [readPong, readFrameOf, bind_assoc, bind_of_error hframe] at hread
      cases hread
      exact absurd hunexpected (ignoresIds_readFrame bytes e rest hframe)
    | ok frame left =>
      have hof := readFrameOf_of_frame pingId hframe
      by_cases hid : frame.packetId ≠ pingId
      · rw [if_pos hid] at hof
        rw [readPong, bind_of_error hof] at hread
        cases hread
        exact ⟨frame, rfl, hid⟩
      · rw [if_neg hid] at hof
        rw [readPong, bind_of_ok hof] at hread
        have hbody : IgnoresIds (do
            let payload ← readUInt64BE.within frame.body
            return ({ frame with payload := payload.toInt64 } : Pong)) :=
          (ignoresIds_readUInt64BE.within _).bind fun _ => .pure _
        exact absurd hunexpected (hbody left e rest hread)
  · rintro ⟨frame, hframe, hid⟩
    have hof := readFrameOf_of_frame pingId hframe
    rw [if_pos hid] at hof
    exact ⟨_, bind_of_error hof, .packet _ _⟩

namespace Session

variable {σ : Type} [StreamTransport σ] [Carrier σ Traffic] {session session' : Session σ} {s : σ}
  {timing : Timing} {e : Error} {response : Response} {pong : Pong}

/-! ### Handshakes and probes -/

/-- Nothing of the session has changed but its phase and its transport, from which all but `left`
has been read and to which `request` has been written. -/
def Reaches (session : Session σ) (s : σ) (phase : Phase) (left request : Bytes)
    (session' : Session σ) : Prop :=
  ∃ s', session' = { session with link := .connected s', phase } ∧
    view s' = (view s).after left request

lemma handshake_of_error (hlink : session.link = .connected s) (hoffers : (view s).Offers bytes)
    (hread : readResponse session.parse bytes = .error e rest) :
    ∃ session', Reaches session s session.phase rest
        (handshakeRequest session.host session.port) session' ∧
      handshake session = .error e session' := by
  have hask := ask_of_offers (mirrors_readResponse session.parse).streams hoffers session.config
    (handshakeRequest session.host session.port)
  rw [hread] at hask
  obtain ⟨s', hrun, hview⟩ := mapState_eq_error_iff.mp hask
  refine ⟨_, ⟨s', rfl, hview⟩, ?_⟩
  rw [handshake_of_connected hlink, show askStatus session s = _ from hrun]

lemma handshake_of_ok (hlink : session.link = .connected s) (hoffers : (view s).Offers bytes)
    (hread : readResponse session.parse bytes = .ok response rest) :
    ∃ s', view s' = (view s).after rest (handshakeRequest session.host session.port) ∧
      handshake session = .ok response.properties
        { session with link := .connected s', phase := .handshakeDone } := by
  have hask := ask_of_offers (mirrors_readResponse session.parse).streams hoffers session.config
    (handshakeRequest session.host session.port)
  rw [hread] at hask
  obtain ⟨s', hrun, hview⟩ := mapState_eq_ok_iff.mp hask
  refine ⟨s', hview, ?_⟩
  rw [handshake_of_connected hlink, show askStatus session s = _ from hrun]

section Probes

variable {s₁ : σ} {request : Bytes} (session) (timing)

/-- What a probe writes and reads comes behind what was written and read before. -/
lemma view_after_of_probe (hoffers : (view s).Offers bytes)
    (hview₁ : view s₁ = (view s).after left request) :
    (probe session timing s₁).mapState view =
      (readPong left).mapState fun rest =>
        (view s).after rest (request ++ pingRequest timing.sentAt) := by
  have hask := ask_of_offers mirrors_readPong.streams (hview₁ ▸ hoffers.after left request)
    session.config (pingRequest timing.sentAt)
  simp only [hview₁, Traffic.after_after] at hask
  exact hask

lemma ping_of_ok (hoffers : (view s).Offers bytes) (hview₁ : view s₁ = (view s).after left request)
    (hread : readPong left = .ok pong rest) :
    ∃ session', Reaches session s .pingDone rest (request ++ pingRequest timing.sentAt) session' ∧
      ping timing { session with link := .connected s₁, phase := .handshakeDone } =
        .ok (timing.since pong.payload) session' := by
  have hprobe := view_after_of_probe
    { session with link := .connected s₁, phase := .handshakeDone } timing hoffers hview₁
  rw [hread] at hprobe
  obtain ⟨s', hrun, hview⟩ := mapState_eq_ok_iff.mp hprobe
  refine ⟨_, ⟨s', rfl, hview⟩, ?_⟩
  rw [ping_of_connected timing rfl rfl, hrun]

lemma ping_of_error (hoffers : (view s).Offers bytes)
    (hview₁ : view s₁ = (view s).after left request) (hread : readPong left = .error e rest) :
    ∃ session', Reaches session s .handshakeDone rest (request ++ pingRequest timing.sentAt)
        session' ∧
      ping timing { session with link := .connected s₁, phase := .handshakeDone } =
        .error e session' := by
  have hprobe := view_after_of_probe
    { session with link := .connected s₁, phase := .handshakeDone } timing hoffers hview₁
  rw [hread] at hprobe
  obtain ⟨s', hrun, hview⟩ := mapState_eq_error_iff.mp hprobe
  refine ⟨_, ⟨s', rfl, hview⟩, ?_⟩
  rw [ping_of_connected timing rfl rfl, hrun]

end Probes

omit [StreamTransport σ] [Carrier σ Traffic] in
lemma unlessUnexpected_of_ok {α : Type} {act : EStateM Error (Session σ) α} {a : α} (fallback : α)
    (h : act session = .ok a session') :
    unlessUnexpected fallback act session = .ok a session' := by
  simp only [unlessUnexpected, h]

omit [StreamTransport σ] [Carrier σ Traffic] in
lemma unlessUnexpected_of_error {α : Type} {act : EStateM Error (Session σ) α} (fallback : α)
    (h : act session = .error e session') (he : ¬e.Unexpected) :
    unlessUnexpected fallback act session = .error e session' := by
  unfold unlessUnexpected
  rw [h]
  split
  · rename_i heq
    cases heq
    exact absurd (.packet _ _) he
  · rfl

omit [StreamTransport σ] [Carrier σ Traffic] in
lemma unlessUnexpected_of_unexpected {α : Type} {act : EStateM Error (Session σ) α} (fallback : α)
    (h : act session = .error e session') (he : e.Unexpected) :
    unlessUnexpected fallback act session = .ok fallback session' := by
  cases he
  simp only [unlessUnexpected, h]

/-! ### Statuses -/

/-- What a status writes if its handshake succeeds. -/
def requests (session : Session σ) (timing : Timing) : Bytes :=
  handshakeRequest session.host session.port ++ pingRequest timing.sentAt

/-- A status over a connection on which nothing fails, at any phase, brings what is made of the
bytes that are to come, whatever they are. If they do not begin with the answer to the handshake,
that failure is all, and no probe is written. Else the probe is written once. The pong that comes
behind the answer ends the status, and the latency is exact unless it overflows; what else comes
there is its failure, except a frame with another packet id. Such a frame is read whole and ignored,
and another ping reads what comes behind it. -/
theorem status_swallows_other_packets (timing : Timing) (hlink : session.link = .connected s)
    (hoffers : (view s).Offers bytes) :
    (∀ e rest, readResponse session.parse bytes = .error e rest → ∃ session',
      Reaches session s session.phase rest (handshakeRequest session.host session.port) session' ∧
      status timing session = .error e session') ∧
    ∀ response left, readResponse session.parse bytes = .ok response left →
      (∀ pong rest, readPong left = .ok pong rest → ∃ latency session',
        Reaches session s .pingDone rest (session.requests timing) session' ∧
        status timing session =
          .ok (latency.map fun latency => (response.properties, latency)) session' ∧
        Elapsed timing.receivedAt pong.payload latency) ∧
      (∀ e rest, readPong left = .error e rest → ¬e.Unexpected → ∃ session',
        Reaches session s .handshakeDone rest (session.requests timing) session' ∧
        status timing session = .error e session') ∧
      (∀ rest, (∃ e, readPong left = .error e rest ∧ e.Unexpected) ↔
        ∃ frame, readFrame left = .ok frame rest ∧ frame.packetId ≠ pingId) ∧
      ∀ frame rest, readFrame left = .ok frame rest → frame.packetId ≠ pingId → ∃ session',
        Reaches session s .handshakeDone rest (session.requests timing) session' ∧
        status timing session = .ok (.value (response.properties, timing.roundTrip)) session' ∧
        ∀ later,
          (∀ pong rest', readPong rest = .ok pong rest' → ∃ latency session'',
            Reaches session s .pingDone rest'
              (session.requests timing ++ pingRequest later.sentAt) session'' ∧
            ping later session' = .ok latency session'' ∧
            Elapsed later.receivedAt pong.payload latency) ∧
          (∀ e rest', readPong rest = .error e rest' → ∃ session'',
            Reaches session s .handshakeDone rest'
              (session.requests timing ++ pingRequest later.sentAt) session'' ∧
            ping later session' = .error e session'') := by
  constructor
  · intro e rest hread
    obtain ⟨session', hreaches, hhandshake⟩ := handshake_of_error hlink hoffers hread
    exact ⟨session', hreaches, bind_of_error hhandshake⟩
  intro response left hread
  obtain ⟨s₁, hview₁, hhandshake⟩ := handshake_of_ok hlink hoffers hread
  rw [status, bind_of_ok hhandshake]
  refine ⟨?_, ?_, fun rest => readPong_unexpected_iff, ?_⟩
  · intro pong rest hpong
    obtain ⟨session', hreaches, hping⟩ := ping_of_ok session timing hoffers hview₁ hpong
    exact ⟨_, session', hreaches, bind_of_ok (unlessUnexpected_of_ok _ hping), elapsed_sub _ _⟩
  · intro e rest hpong he
    obtain ⟨session', hreaches, hping⟩ := ping_of_error session timing hoffers hview₁ hpong
    exact ⟨session', hreaches, bind_of_error (unlessUnexpected_of_error _ hping he)⟩
  · intro frame rest hframe hid
    obtain ⟨e, hpong, he⟩ := readPong_unexpected_iff.mpr ⟨frame, hframe, hid⟩
    obtain ⟨session', ⟨s₂, rfl, hview₂⟩, hping⟩ :=
      ping_of_error session timing hoffers hview₁ hpong
    refine ⟨_, ⟨s₂, rfl, hview₂⟩, bind_of_ok (unlessUnexpected_of_unexpected _ hping he), ?_⟩
    intro later
    constructor
    · intro pong rest' hpong'
      obtain ⟨session'', hreaches, hping'⟩ := ping_of_ok session later hoffers hview₂ hpong'
      exact ⟨_, session'', hreaches, hping', elapsed_sub _ _⟩
    · exact fun e rest' hpong' => ping_of_error session later hoffers hview₂ hpong'

/-- A session with a server that answers the first probe with another status, and the second one
with a pong. -/
def stubbornSession : Session (Cut Traffic) where
  host := "localhost"
  port := 25565
  parse := Json.parseObject
  link := .connected
    { peer.incoming := (emptyStatus ++ emptyStatus ++ [9, 1, 0, 0, 0, 0, 0, 0, 0, 5]).map .ok
      reads := [some 0, some 2] }
  phase := .connected

theorem status_swallows_second_status :
    ∃ session', session'.phase = .handshakeDone ∧
      status { sentAt := 3, receivedAt := 4, roundTrip := 1 } stubbornSession =
        .ok (.value ([], 1)) session' ∧
      ∃ latency session'',
        ping { sentAt := 5, receivedAt := 7, roundTrip := 2 } session' =
          .ok (.value latency) session'' ∧
        latency.toInt = 2 := by
  have hlink : stubbornSession.link = .connected _ := rfl
  obtain ⟨-, hall⟩ := status_swallows_other_packets
    { sentAt := 3, receivedAt := 4, roundTrip := 1 } hlink ⟨⟨rfl, rfl, rfl⟩, rfl⟩
  obtain ⟨-, -, -, hswallows⟩ := hall { length := 4, packetId := 0, properties := [] } _
    (by with_unfolding_all rfl)
  obtain ⟨session', ⟨s', rfl, -⟩, hstatus, hlater⟩ := hswallows ⟨4, 0, [2, 0x7B, 0x7D]⟩ _
    (by with_unfolding_all rfl) (by decide)
  obtain ⟨latency, session'', -, hping, helapsed⟩ :=
    (hlater { sentAt := 5, receivedAt := 7, roundTrip := 2 }).1 ⟨9, 1, 5⟩ _
      (by with_unfolding_all rfl)
  cases helapsed with
  | exact helapsed => exact ⟨_, rfl, hstatus, _, session'', hping, helapsed⟩
  | overflow h => exact absurd h (by decide)

end Session

end Status

end GameProbe
