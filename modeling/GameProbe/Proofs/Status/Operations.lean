import GameProbe.Proofs.Transport.Link
import GameProbe.Proofs.Transport.Moves
import GameProbe.Status.Session

/-!
# Operations of a status session

What each operation of a status session does, outcome by outcome: when it is turned away, what it
exchanges with the server, and where it leaves the link and the phase.
-/

namespace GameProbe.Status.Session

open EStateM.Result

variable {σ : Type} [StreamTransport σ] {session : Session σ} {s : σ} {R : σ → σ → Prop}

/-! ### Connecting -/

omit [StreamTransport σ] in
lemma connect_apply (transport : σ) (session : Session σ) :
    connect transport session =
      match session.link with
      | .unconnected => .ok () { session with link := .connected transport, phase := .connected }
      | .connected _ => .error .alreadyConnected session
      | .disconnected _ => .error .connectionTerminated session := by
  obtain ⟨host, port, config, parse, link, phase⟩ := session
  cases link <;> rfl

/-! ### Handshakes -/

/-- What a handshake does over a connection. -/
def askStatus (session : Session σ) : Decoder σ Response := do
  writeRequest (handshakeRequest session.host session.port)
  limitReads session.config
  readResponse session.parse

lemma moves_askStatus [IsPreorder σ R] (h : Talks R) (session : Session σ) :
    Moves R (askStatus session) :=
  (Moves.writeRequest h _).bind fun _ =>
    (Moves.limitReads h.toListens _).bind fun _ => moves_readResponse h.toListens _

lemma handshake_of_not_connected (hlink : session.link.isConnected = false) :
    handshake session = .error .notConnected session := by
  rw [handshake, get_bind_apply]
  exact bind_of_error (Linked.use_of_not_connected _ hlink)

lemma handshake_of_connected (hlink : session.link = .connected s) :
    handshake session =
      match askStatus session s with
      | .ok response s' =>
        .ok response.properties { session with link := .connected s', phase := .handshakeDone }
      | .error e s' => .error e { session with link := .connected s' } := by
  have huse : Linked.use (askStatus session) session = _ := Linked.use_of_connected _ hlink
  rw [handshake, get_bind_apply]
  cases h : askStatus session s with
  | ok response s' =>
    rw [h] at huse
    exact bind_of_ok huse
  | error e s' =>
    rw [h] at huse
    exact bind_of_error huse

/-- A handshake that fails leaves the phase as it is, and the link in its state. -/
lemma shape_of_handshake_error {e : Error} {session' : Session σ}
    (h : handshake session = .error e session') :
    session'.phase = session.phase ∧ session'.link.shape = session.link.shape := by
  rcases session.link.not_connected_or with hlink | ⟨s, hlink⟩
  · rw [handshake_of_not_connected hlink] at h
    cases h
    exact ⟨rfl, rfl⟩
  · rw [handshake_of_connected hlink] at h
    split at h
    · cases h
    · cases h
      rw [hlink]
      exact ⟨rfl, rfl⟩

/-! ### Probes -/

/-- What a ping does over a connection. -/
def probe (session : Session σ) (timing : Timing) : Decoder σ Pong := do
  writeRequest (pingRequest timing.sentAt)
  limitReads session.config
  readPong

lemma moves_probe [IsPreorder σ R] (h : Talks R) (session : Session σ) (timing : Timing) :
    Moves R (probe session timing) :=
  (Moves.writeRequest h _).bind fun _ =>
    (Moves.limitReads h.toListens _).bind fun _ => moves_readPong h.toListens

/-- Except right behind a handshake a ping is turned away, and nothing is done. -/
lemma ping_of_phase (timing : Timing) (hphase : session.phase ≠ .handshakeDone) :
    ping timing session =
      .error (if session.link.isConnected then .handshakeRequired "ping" else .notConnected)
        session := by
  rw [ping, get_bind_apply, if_pos hphase]
  cases hlink : session.link.isConnected with
  | true =>
    have hcheck : Linked.ensureConnected session = .ok () session := if_pos hlink
    exact bind_of_ok hcheck
  | false =>
    have hcheck : Linked.ensureConnected session = .error .notConnected session :=
      if_neg (ne_true_of_eq_false hlink)
    exact bind_of_error hcheck

lemma ping_of_not_connected (timing : Timing) (hlink : session.link.isConnected = false) :
    ping timing session = .error .notConnected session := by
  by_cases hphase : session.phase = .handshakeDone
  · rw [ping, get_bind_apply, if_neg (not_not_intro hphase)]
    exact bind_of_error (Linked.use_of_not_connected _ hlink)
  · rw [ping_of_phase timing hphase, hlink]
    rfl

lemma ping_of_connected (timing : Timing) (hphase : session.phase = .handshakeDone)
    (hlink : session.link = .connected s) :
    ping timing session =
      match probe session timing s with
      | .ok pong s' =>
        .ok (timing.since pong.payload)
          { session with link := .connected s', phase := .pingDone }
      | .error e s' => .error e { session with link := .connected s' } := by
  have huse : Linked.use (probe session timing) session = _ := Linked.use_of_connected _ hlink
  rw [ping, get_bind_apply, if_neg (not_not_intro hphase)]
  cases h : probe session timing s with
  | ok pong s' =>
    rw [h] at huse
    exact bind_of_ok huse
  | error e s' =>
    rw [h] at huse
    exact bind_of_error huse

omit [StreamTransport σ] in
lemma state_unlessUnexpected {γ α : Type} (fallback : α) (act : EStateM Error γ α) (client : γ) :
    (unlessUnexpected fallback act client).state = (act client).state := by
  unfold unlessUnexpected
  split
  · rename_i h
    rw [h]
    rfl
  · rfl

/-- A ping that fails leaves the phase as it is, and the link in its state. -/
lemma shape_of_ping_error {timing : Timing} {e : Error} {session' : Session σ}
    (h : ping timing session = .error e session') :
    session'.phase = session.phase ∧ session'.link.shape = session.link.shape := by
  rcases session.link.not_connected_or with hlink | ⟨s, hlink⟩
  · rw [ping_of_not_connected timing hlink] at h
    cases h
    exact ⟨rfl, rfl⟩
  by_cases hphase : session.phase = .handshakeDone
  · rw [ping_of_connected timing hphase hlink] at h
    split at h
    · cases h
    · cases h
      rw [hlink]
      exact ⟨rfl, rfl⟩
  · rw [ping_of_phase timing hphase] at h
    cases h
    exact ⟨rfl, rfl⟩

/-- A status is a handshake and, if that succeeds, a probe. -/
lemma state_status (timing : Timing) (session : Session σ) :
    (status timing session).state =
      match handshake session with
      | .ok _ session' => (ping timing session').state
      | .error _ session' => session' := by
  cases h : handshake session with
  | ok properties session' =>
    rw [status, bind_of_ok h, state_bind_pure, state_unlessUnexpected]
  | error e session' =>
    rw [status, bind_of_error h]
    rfl

/-! ### Disconnecting -/

lemma state_disconnect_of_connected (hlink : session.link = .connected s) :
    (disconnect session).state =
      { session with
        link := .disconnected (liftIo Transport.close s).state, phase := .disconnected } := by
  have hrelease : Linked.release session = _ := Linked.release_of_connected hlink
  rw [disconnect, hrelease]
  cases liftIo Transport.close s <;> rfl

lemma disconnect_of_not_connected (hlink : session.link.isConnected = false) :
    disconnect session = .error .notConnected (afterRelease session) := by
  have hrelease : Linked.release session = _ := Linked.release_of_not_connected hlink
  rw [disconnect, hrelease]

end GameProbe.Status.Session
