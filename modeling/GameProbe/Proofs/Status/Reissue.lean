import GameProbe.Json.Parser
import GameProbe.Proofs.Calls
import GameProbe.Proofs.Responses
import GameProbe.Proofs.Status.Operations
import GameProbe.Proofs.Transport.Cut
import GameProbe.Proofs.Transport.Quiet

/-!
# Handshakes that are made again

What comes of a handshake when the one before was broken off within the answer. The part of the
answer that had come is lost with the first call, so the second one begins to read in the middle of
it, unless nothing of it had come.
-/

namespace GameProbe.Status.Session

open EStateM.Result Carrier Decoder

variable {σ : Type} [StreamTransport σ] [Carrier σ Traffic] {session : Session σ} {s : σ}

/-! ### One handshake -/

/-- A handshake over a quiet connection brings what a status does that is read from what is to
come. -/
lemma handshake_of_quiet (hlink : session.link = .connected s) (hquiet : (view s).Quiet) :
    ∃ s', view s' =
        { view s with written := (view s).written ++ handshakeRequest session.host session.port } ∧
      handshake session =
        match readResponse session.parse s' with
        | .ok response s'' =>
          .ok response.properties { session with link := .connected s'', phase := .handshakeDone }
        | .error e s'' => .error e { session with link := .connected s'' } := by
  obtain ⟨s', hview, hask⟩ := ask_of_quiet hquiet session.config
    (handshakeRequest session.host session.port) (readResponse session.parse)
  have hrun : askStatus session s = readResponse session.parse s' := hask
  have hhandshake := handshake_of_connected hlink
  rw [hrun] at hhandshake
  exact ⟨s', hview, hhandshake⟩

/-! ### Two handshakes -/

variable {fault : Fault} {early late next : Bytes} {response : Response}

/-- A fault within an answer breaks the handshake off, and what had come of the answer is gone. -/
lemma handshake_of_fault (hlink : session.link = .connected s) (hquiet : (view s).Quiet)
    (hincoming : (view s).incoming = early.map .ok ++ .error fault :: (late ++ next).map .ok)
    (hlate : late ≠ [])
    (hresponse : readResponse session.parse (early ++ late) = .ok response []) :
    ∃ s', handshake session = .error (.io fault) { session with link := .connected s' } ∧
      (view s').Quiet ∧ (view s').incoming = (late ++ next).map .ok := by
  obtain ⟨s₁, hview, hhandshake⟩ := handshake_of_quiet hlink hquiet
  have hmirrors : Mirrors (readResponse session.parse : Decoder σ Response) _ :=
    mirrors_readResponse session.parse
  obtain ⟨expected, received, hstarves⟩ := hmirrors.starves_of_ok hresponse hlate
  have hgives := Traffic.gives_of_incoming (t := view s₁) (by rw [hview]; exact hincoming)
  obtain ⟨s₂, hread, hview₂⟩ := mapState_eq_error_iff.mp (hstarves.fault s₁ _ _ fault hgives rfl)
  refine ⟨s₂, ?_, ?_, ?_⟩
  · rw [hhandshake, hread]
  · rw [hview₂, hview]
    exact hquiet.later _ _
  · rw [hview₂]

/-- With nothing but whole bytes to come, a handshake brings what a status does that is read from
them. -/
lemma handshake_of_bytes {bytes : Bytes} (hlink : session.link = .connected s)
    (hquiet : (view s).Quiet) (hincoming : (view s).incoming = bytes.map .ok) :
    (handshake session).toExcept =
      (readResponse session.parse bytes).toExcept.map Response.properties := by
  obtain ⟨s₁, hview, hhandshake⟩ := handshake_of_quiet hlink hquiet
  have hmirrors : Mirrors (readResponse session.parse : Decoder σ Response) _ :=
    mirrors_readResponse session.parse
  rw [← hmirrors.toExcept_of_incoming (s := s₁) (by rw [hview]; exact hincoming), hhandshake]
  cases readResponse session.parse s₁ <;> rfl

/-- A status without properties. -/
def emptyStatus : Bytes := [4, 0, 2, 0x7B, 0x7D]

lemma readResponse_emptyStatus : readResponse Json.parseObject emptyStatus =
    .ok { length := 4, packetId := 0, properties := [] } [] := by with_unfolding_all rfl

/-- Behind the first byte, the next one is taken for the length of an empty frame. -/
lemma readResponse_within_emptyStatus :
    (readResponse Json.parseObject (emptyStatus.drop 1 ++ emptyStatus)).toExcept =
      .error (.connectionClosed 1 0) := by with_unfolding_all rfl

/-- A peer that sends that status twice, with a failure of reading behind the first `n` bytes. -/
def brokenStatus (n : Nat) : Traffic where
  incoming := (emptyStatus.take n).map .ok ++
    .error Fault.timedOut :: (emptyStatus.drop n ++ emptyStatus).map .ok

/-- A session that is connected with that peer. -/
def brokenSession (n : Nat) : Session (Cut Traffic) where
  host := "localhost"
  port := 25565
  parse := Json.parseObject
  link := .connected { peer := brokenStatus n }
  phase := .connected

lemma incoming_brokenStatus (n : Nat) :
    (view ({ peer := brokenStatus n } : Cut Traffic)).incoming = (emptyStatus.take n).map .ok ++
      .error Fault.timedOut :: (emptyStatus.drop n ++ emptyStatus).map .ok := rfl

/-- A handshake that a fault breaks off leaves a connection on which another one can be made. That
one reads a status from the end of the answer, where the fault came, and from what comes behind it.
So it brings the status of the first answer if nothing of that had come before the fault. -/
theorem handshake_made_again (hlink : session.link = .connected s) (hquiet : (view s).Quiet)
    (hincoming : (view s).incoming = early.map .ok ++ .error fault :: (late ++ next).map .ok)
    (hlate : late ≠ [])
    (hresponse : readResponse session.parse (early ++ late) = .ok response []) :
    ∃ s', handshake session = .error (.io fault) { session with link := .connected s' } ∧
      (handshake { session with link := .connected s' }).toExcept =
        (readResponse session.parse (late ++ next)).toExcept.map Response.properties ∧
      (early = [] → (handshake { session with link := .connected s' }).toExcept =
        .ok response.properties) := by
  obtain ⟨s', hfirst, hquiet', hincoming'⟩ :=
    handshake_of_fault hlink hquiet hincoming hlate hresponse
  have hlink' : ({ session with link := .connected s' } : Session σ).link = .connected s' := rfl
  have hsecond := handshake_of_bytes hlink' hquiet' hincoming'
  refine ⟨s', hfirst, hsecond, ?_⟩
  rintro rfl
  obtain ⟨c, hc, htakes⟩ := selfDelimiting_readResponse _ _ _ _ hresponse
  rw [List.nil_append, List.append_nil] at hc
  rw [hsecond, hc, htakes.append]
  rfl

theorem handshake_made_again_of_empty_status :
    (∃ s', handshake (brokenSession 0) =
        .error (.io Fault.timedOut) { brokenSession 0 with link := .connected s' } ∧
      (handshake { brokenSession 0 with link := .connected s' }).toExcept = .ok []) ∧
    ∃ s', handshake (brokenSession 1) =
        .error (.io Fault.timedOut) { brokenSession 1 with link := .connected s' } ∧
      (handshake { brokenSession 1 with link := .connected s' }).toExcept =
        .error (.connectionClosed 1 0) := by
  constructor
  · obtain ⟨s', hfirst, -, hsecond⟩ := handshake_made_again (rfl : (brokenSession 0).link = _)
      ⟨rfl, rfl, rfl⟩ (incoming_brokenStatus 0) (by decide) readResponse_emptyStatus
    exact ⟨s', hfirst, hsecond rfl⟩
  · obtain ⟨s', hfirst, hsecond, -⟩ := handshake_made_again (rfl : (brokenSession 1).link = _)
      ⟨rfl, rfl, rfl⟩ (incoming_brokenStatus 1) (by decide) readResponse_emptyStatus
    exact ⟨s', hfirst, hsecond.trans (congrArg _ readResponse_within_emptyStatus)⟩

/-- With a part of the first status lost, the second handshake does not see that there is one. -/
theorem second_handshake_loses_status :
    readResponse Json.parseObject emptyStatus =
      .ok { length := 4, packetId := 0, properties := [] } [] ∧
    (runAll Session.perform [.handshake, .handshake] (brokenSession 1)).1 =
      [.error (.io Fault.timedOut), .error (.connectionClosed 1 0)] := by
  obtain ⟨s', hfirst, hquiet, hincoming⟩ :=
    handshake_of_fault (rfl : (brokenSession 1).link = _) ⟨rfl, rfl, rfl⟩
      (incoming_brokenStatus 1) (by decide) readResponse_emptyStatus
  have hlink : ({ brokenSession 1 with link := .connected s' } : Session _).link = _ := rfl
  have hsecond := (handshake_of_bytes hlink hquiet hincoming).trans
    (congrArg _ readResponse_within_emptyStatus)
  refine ⟨readResponse_emptyStatus, ?_⟩
  rw [runAll_cons, runAll_cons, Session.perform, state_bind_pure, toExcept_bind_pure,
    toExcept_bind_pure, hfirst, state_error, hsecond]
  rfl

end GameProbe.Status.Session
