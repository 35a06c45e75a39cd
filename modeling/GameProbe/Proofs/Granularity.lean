import GameProbe.Json.Parser
import GameProbe.Proofs.Calls
import GameProbe.Proofs.Transport.Cut
import GameProbe.Proofs.Transport.Link
import GameProbe.Proofs.Transport.Traffic

/-!
# Granularity

Whatever a client of a stream does, it does alike over all carriers of one peer. So nothing of how a
transport cuts up the bytes in either direction, or of where it interrupts a call, shows in what the
client brings or in what the server hears.
-/

namespace GameProbe

open Agree Carrier EStateM.Result

/-! ### Runs -/

section Runs

variable {γ₁ γ₂ δ κ₁ κ₂ κ ρ : Type} {F₁ : γ₁ → δ} {F₂ : γ₂ → δ} {G₁ : κ₁ → κ} {G₂ : κ₂ → κ}
  {perform₁ : κ₁ → EStateM Error γ₁ ρ} {perform₂ : κ₂ → EStateM Error γ₂ ρ}

/-- If each call is alike, so are all of them together. -/
lemma agree_runAll (h : ∀ call₁ call₂, G₁ call₁ = G₂ call₂ →
      Agree F₁ F₂ (perform₁ call₁) (perform₂ call₂))
    {calls₁ : List κ₁} {calls₂ : List κ₂} (hcalls : calls₁.map G₁ = calls₂.map G₂)
    {client₁ : γ₁} {client₂ : γ₂} (hclient : F₁ client₁ = F₂ client₂) :
    (runAll perform₁ calls₁ client₁).1 = (runAll perform₂ calls₂ client₂).1 ∧
      F₁ (runAll perform₁ calls₁ client₁).2 = F₂ (runAll perform₂ calls₂ client₂).2 := by
  induction calls₁ generalizing calls₂ client₁ client₂ with
  | nil =>
    obtain rfl : calls₂ = [] := by simpa using hcalls.symm
    exact ⟨rfl, hclient⟩
  | cons call₁ calls₁ ih =>
    obtain ⟨call₂, calls₂', rfl, hcall, hcalls'⟩ := List.map_eq_cons_iff.mp hcalls.symm
    have hr := h call₁ call₂ hcall.symm client₁ client₂ hclient
    cases h₁ : perform₁ call₁ client₁ with
    | ok result client₁' =>
      rw [h₁] at hr
      obtain ⟨client₂', h₂, hc⟩ := mapState_eq_ok_iff.mp hr.symm
      obtain ⟨hresults, hclients⟩ := ih hcalls'.symm hc.symm
      rw [runAll_cons_of_ok h₁, runAll_cons_of_ok h₂, hresults]
      exact ⟨rfl, hclients⟩
    | error e client₁' =>
      rw [h₁] at hr
      obtain ⟨client₂', h₂, hc⟩ := mapState_eq_error_iff.mp hr.symm
      obtain ⟨hresults, hclients⟩ := ih hcalls'.symm hc.symm
      rw [runAll_cons_of_error h₁, runAll_cons_of_error h₂, hresults]
      exact ⟨rfl, hclients⟩

end Runs

variable {σ σ₁ σ₂ τ π : Type} [StreamTransport σ₁] [StreamTransport σ₂] [Peer π] [Carrier σ₁ π]
  [Carrier σ₂ π]

lemma alike_close : Agree (view : σ₁ → π) view (Transport.close : EStateM IoError σ₁ Unit)
    (Transport.close : EStateM IoError σ₂ Unit) :=
  .of_view close_view close_view

/-! ### Status sessions -/

namespace Status

/-- The call with the transport seen through `f`. -/
def Call.map (f : σ → τ) : Call σ → Call τ
  | connect transport => connect (f transport)
  | handshake => handshake
  | ping timing => ping timing
  | status timing => status timing
  | disconnect => disconnect

namespace Session

/-- The session with its transport seen through `f`. -/
def map (f : σ → τ) (session : Session σ) : Session τ :=
  { host := session.host, port := session.port, config := session.config,
    parse := session.parse, link := session.link.map f, phase := session.phase }

lemma respects_map (f : σ → τ) : Linked.Respects f (map f) where
  link _ := rfl
  setLink _ _ := rfl

lemma agree_inPhase (phase : Phase) :
    Agree (map (view : σ₁ → π)) (map (view : σ₂ → π))
      (modify (inPhase phase) : EStateM Error (Session σ₁) Unit) (modify (inPhase phase)) :=
  .modify fun _ _ h => congrArg (inPhase phase) h

lemma agree_connect {t₁ : σ₁} {t₂ : σ₂} (ht : view t₁ = view t₂) :
    Agree (map view) (map view) (connect t₁) (connect t₂) :=
  (Linked.agree_attach (respects_map view) (respects_map view) ht).bind fun _ =>
    agree_inPhase .connected

lemma agree_handshake :
    Agree (map view) (map view) (handshake : EStateM Error (Session σ₁) Json.Object)
      (handshake : EStateM Error (Session σ₂) Json.Object) := by
  refine .get_bind fun s₁ s₂ h => ?_
  have hhost : s₁.host = s₂.host := congrArg Session.host h
  have hport : s₁.port = s₂.port := congrArg Session.port h
  have hconfig : s₁.config = s₂.config := congrArg Session.config h
  have hparse : s₁.parse = s₂.parse := congrArg Session.parse h
  rw [hhost, hport, hconfig, hparse]
  refine (Linked.agree_use (respects_map view) (respects_map view) ?_).bind fun response =>
    (agree_inPhase .handshakeDone).map fun _ => response.properties
  exact (alike_writeRequest _).bind fun _ => (alike_limitReads _).bind fun _ => alike_readResponse _

lemma agree_ping (timing : Timing) :
    Agree (map view) (map view) (ping timing : EStateM Error (Session σ₁) (Checked Int64))
      (ping timing : EStateM Error (Session σ₂) (Checked Int64)) := by
  refine .get_bind fun s₁ s₂ h => ?_
  have hphase : s₁.phase = s₂.phase := congrArg Session.phase h
  have hconfig : s₁.config = s₂.config := congrArg Session.config h
  rw [hphase, hconfig]
  dsimp only
  split
  · exact (Linked.agree_ensureConnected (respects_map view) (respects_map view)).bind fun _ =>
      .throw _
  · refine (Linked.agree_use (respects_map view) (respects_map view) ?_).bind fun pong =>
      (agree_inPhase .pingDone).map fun _ => timing.since pong.payload
    exact (alike_writeRequest _).bind fun _ => (alike_limitReads _).bind fun _ => alike_readPong

lemma agree_unlessUnexpected {γ₁ γ₂ δ α : Type} {F₁ : γ₁ → δ} {F₂ : γ₂ → δ} (fallback : α)
    {act₁ : EStateM Error γ₁ α} {act₂ : EStateM Error γ₂ α} (hact : Agree F₁ F₂ act₁ act₂) :
    Agree F₁ F₂ (unlessUnexpected fallback act₁) (unlessUnexpected fallback act₂) := by
  intro c₁ c₂ h
  have hr := hact c₁ c₂ h
  unfold unlessUnexpected
  cases h₁ : act₁ c₁ with
  | ok a c₁' =>
    rw [h₁] at hr
    obtain ⟨c₂', h₂, -⟩ := mapState_eq_ok_iff.mp hr.symm
    rw [h₂] at hr ⊢
    exact hr
  | error e c₁' =>
    rw [h₁] at hr
    obtain ⟨c₂', h₂, hc⟩ := mapState_eq_error_iff.mp hr.symm
    rw [h₂] at hr ⊢
    cases e
    case unexpectedPacket => exact congrArg (EStateM.Result.ok fallback) hc.symm
    all_goals exact hr

lemma agree_status (timing : Timing) :
    Agree (map view) (map view) (status timing : EStateM Error (Session σ₁) _)
      (status timing : EStateM Error (Session σ₂) _) :=
  agree_handshake.bind fun properties =>
    (agree_unlessUnexpected (.value timing.roundTrip) (agree_ping timing)).map fun latency =>
      latency.map fun latency => (properties, latency)

lemma map_afterRelease {s₁ : Session σ₁} {s₂ : Session σ₂}
    (h : s₁.map (view : σ₁ → π) = s₂.map view) :
    (afterRelease s₁).map (view : σ₁ → π) = (afterRelease s₂).map view := by
  have hlink : s₁.link.map (view : σ₁ → π) = s₂.link.map view := congrArg Session.link h
  unfold afterRelease
  rcases Link.cases_of_map_eq hlink with ⟨h₁, h₂⟩ | ⟨t₁, t₂, h₁, h₂, -⟩ | ⟨t₁, t₂, h₁, h₂, -⟩
  · simpa only [h₁, h₂, Link.isUnconnected, reduceIte] using h
  · simp only [h₁, h₂, Link.isUnconnected, reduceIte, Bool.false_eq_true]
    exact congrArg (inPhase .disconnected) h
  · simp only [h₁, h₂, Link.isUnconnected, reduceIte, Bool.false_eq_true]
    exact congrArg (inPhase .disconnected) h

lemma agree_disconnect :
    Agree (map view) (map view) (disconnect : EStateM Error (Session σ₁) Unit)
      (disconnect : EStateM Error (Session σ₂) Unit) := by
  intro s₁ s₂ h
  have hr := Linked.agree_release (respects_map view) (respects_map view) alike_close s₁ s₂ h
  unfold disconnect
  cases h₁ : (Linked.release s₁ : EStateM.Result Error (Session σ₁) Unit) with
  | ok a s₁' =>
    rw [h₁] at hr
    obtain ⟨s₂', h₂, hs⟩ := mapState_eq_ok_iff.mp hr.symm
    rw [h₂]
    exact congrArg (EStateM.Result.ok ()) (map_afterRelease hs.symm)
  | error e s₁' =>
    rw [h₁] at hr
    obtain ⟨s₂', h₂, hs⟩ := mapState_eq_error_iff.mp hr.symm
    rw [h₂]
    exact congrArg (EStateM.Result.error e) (map_afterRelease hs.symm)

lemma agree_perform {call₁ : Call σ₁} {call₂ : Call σ₂}
    (h : call₁.map (view : σ₁ → π) = call₂.map view) :
    Agree (map (view : σ₁ → π)) (map view) (perform call₁) (perform call₂) := by
  cases call₁ <;> cases call₂ <;> simp only [Call.map, reduceCtorEq, Call.connect.injEq,
    Call.ping.injEq, Call.status.injEq] at h
  case connect.connect => exact (agree_connect h).map fun _ => Outcome.done
  case handshake.handshake => exact agree_handshake.map Outcome.properties
  case ping.ping timing _ =>
    subst h
    exact (agree_ping timing).map Outcome.latency
  case status.status timing _ =>
    subst h
    exact (agree_status timing).map Outcome.status
  case disconnect.disconnect => exact agree_disconnect.map fun _ => Outcome.done

end Session

end Status

/-! ### Legacy sessions -/

namespace Legacy

/-- The call with the transport seen through `f`. -/
def Call.map (f : σ → τ) : Call σ → Call τ
  | connect transport => connect (f transport)
  | ping variant => ping variant
  | timedPing variant timing => timedPing variant timing
  | disconnect => disconnect

namespace Session

/-- The session with its transport seen through `f`. -/
def map (f : σ → τ) (session : Session σ) : Session τ :=
  { host := session.host, port := session.port, config := session.config,
    link := session.link.map f }

lemma respects_map (f : σ → τ) : Linked.Respects f (map f) where
  link _ := rfl
  setLink _ _ := rfl

lemma agree_ping (variant : Variant) :
    Agree (map view) (map view) (ping variant : EStateM Error (Session σ₁) Info)
      (ping variant : EStateM Error (Session σ₂) Info) := by
  refine .get_bind fun s₁ s₂ h => ?_
  have hhost : s₁.host = s₂.host := congrArg Session.host h
  have hport : s₁.port = s₂.port := congrArg Session.port h
  have hconfig : s₁.config = s₂.config := congrArg Session.config h
  rw [hhost, hport, hconfig]
  refine (Linked.agree_use (respects_map view) (respects_map view) ?_).map Response.info
  exact (alike_writeRequest _).bind fun _ => (alike_limitReads _).bind fun _ => alike_readResponse

lemma agree_perform {call₁ : Call σ₁} {call₂ : Call σ₂}
    (h : call₁.map (view : σ₁ → π) = call₂.map view) :
    Agree (map (view : σ₁ → π)) (map view) (perform call₁) (perform call₂) := by
  cases call₁ <;> cases call₂ <;> simp only [Call.map, reduceCtorEq, Call.connect.injEq,
    Call.ping.injEq, Call.timedPing.injEq] at h
  case connect.connect =>
    exact (Linked.agree_attach (respects_map view) (respects_map view) h).map fun _ => Outcome.done
  case ping.ping variant _ =>
    subst h
    exact (agree_ping variant).map Outcome.info
  case timedPing.timedPing variant timing _ _ =>
    obtain ⟨rfl, rfl⟩ := h
    exact ((agree_ping variant).map fun info => (info, timing.roundTrip)).bind
      fun (info, latency) => .pure _
  case disconnect.disconnect =>
    exact (Linked.agree_release (respects_map view) (respects_map view) alike_close).map
      fun _ => Outcome.done

end Session

end Legacy

/-! ### Remote console sessions -/

namespace Rcon

/-- The call with the transport seen through `f`. -/
def Call.map (f : σ → τ) : Call σ → Call τ
  | connect transport => connect (f transport)
  | authenticate password => authenticate password
  | command text => command text
  | disconnect => disconnect

namespace Session

variable {ι : Type}

/-- The session with its transport seen through `f`. -/
def map (f : σ → τ) (session : Session σ ι) : Session τ ι :=
  { config := session.config, link := session.link.map f, ids := session.ids,
    authenticated := session.authenticated }

lemma respects_map (f : σ → τ) : Linked.Respects f (map f : Session σ ι → Session τ ι) where
  link _ := rfl
  setLink _ _ := rfl

lemma agree_setAuthenticated (authenticated : Bool) :
    Agree (map (view : σ₁ → π)) (map (view : σ₂ → π))
      (modify fun session => { session with authenticated } : EStateM Error (Session σ₁ ι) Unit)
      (modify fun session => { session with authenticated }) :=
  .modify fun _ _ h => congrArg (fun session : Session π ι => { session with authenticated }) h

lemma agree_drawRequestId [IdSource ι] :
    Agree (map (view : σ₁ → π)) (map (view : σ₂ → π))
      (drawRequestId : EStateM Error (Session σ₁ ι) Int32)
      (drawRequestId : EStateM Error (Session σ₂ ι) Int32) := by
  intro s₁ s₂ h
  have hids : s₁.ids = s₂.ids := congrArg Session.ids h
  show EStateM.Result.ok _ _ = EStateM.Result.ok _ _
  rw [hids]
  exact congrArg (fun session : Session π ι =>
    EStateM.Result.ok _ { session with ids := (IdSource.requestId s₂.ids).2 }) h

lemma agree_authenticate [IdSource ι] (password : String) :
    Agree (map view) (map view) (authenticate password : EStateM Error (Session σ₁ ι) Bool)
      (authenticate password : EStateM Error (Session σ₂ ι) Bool) := by
  refine .get_bind fun s₁ s₂ h => ?_
  have hconfig : s₁.config = s₂.config := congrArg Session.config h
  rw [hconfig]
  refine (Linked.agree_ensureConnected (respects_map view) (respects_map view)).bind fun _ => ?_
  refine agree_drawRequestId.bind fun requestId => ?_
  refine (Linked.agree_use (respects_map view) (respects_map view) ?_).bind fun reply => ?_
  · exact (alike_writeRequest _).bind fun _ => alike_receiveLoginReply _
  split
  · exact (agree_setAuthenticated false).map fun _ => false
  · split
    · exact (agree_setAuthenticated true).map fun _ => true
    · exact .throw _

lemma agree_command [IdSource ι] (text : String) :
    Agree (map view) (map view) (command text : EStateM Error (Session σ₁ ι) String)
      (command text : EStateM Error (Session σ₂ ι) String) := by
  refine .get_bind fun s₁ s₂ h => ?_
  have hconfig : s₁.config = s₂.config := congrArg Session.config h
  have hauthenticated : s₁.authenticated = s₂.authenticated := congrArg Session.authenticated h
  rw [hconfig, hauthenticated]
  dsimp only
  split
  · exact .throw _
  refine (Linked.agree_ensureConnected (respects_map view) (respects_map view)).bind fun _ => ?_
  split
  · exact .throw _
  refine agree_drawRequestId.bind fun requestId => ?_
  refine (Linked.agree_use (respects_map view) (respects_map view) ?_).bind
    fun (first, output) => ?_
  · exact (alike_writeRequest _).bind fun _ => alike_receiveResponse _ _
  dsimp only
  split
  · exact .throw _
  · split
    · exact .pure _
    · exact .throw _

lemma agree_disconnect :
    Agree (map view) (map view) (disconnect : EStateM Error (Session σ₁ ι) Unit)
      (disconnect : EStateM Error (Session σ₂ ι) Unit) :=
  (agree_setAuthenticated false).bind fun _ =>
    Linked.agree_release (respects_map view) (respects_map view) alike_close

lemma agree_perform [IdSource ι] {call₁ : Call σ₁} {call₂ : Call σ₂}
    (h : call₁.map (view : σ₁ → π) = call₂.map view) :
    Agree (map (view : σ₁ → π)) (map view) (perform (ι := ι) call₁) (perform call₂) := by
  cases call₁ <;> cases call₂ <;> simp only [Call.map, reduceCtorEq, Call.connect.injEq,
    Call.authenticate.injEq, Call.command.injEq] at h
  case connect.connect =>
    exact (Linked.agree_attach (respects_map view) (respects_map view) h).map fun _ => Outcome.done
  case authenticate.authenticate password _ =>
    subst h
    exact (agree_authenticate password).map Outcome.accepted
  case command.command text _ =>
    subst h
    exact (agree_command text).map Outcome.response
  case disconnect.disconnect => exact agree_disconnect.map fun _ => Outcome.done

end Session

end Rcon

/-! ### Any client of a stream -/

/-- What the server has heard over the link. -/
def Link.written [StreamTransport σ] [Carrier σ π] (link : Link σ) : Option Bytes :=
  (link.map view).transport?.map Peer.written

/-- How much of what the server says has not been read over the link. -/
def Link.unread [StreamTransport σ] [Carrier σ π] (link : Link σ) : Option Nat :=
  (link.map view).transport?.map Peer.unread

/-- Two runs cannot be told apart: they bring the same call by call, leave clients that differ at
most in how their transports cut up the rest, and have written and left to be read the same. -/
structure SameRun {γ₁ γ₂ δ ρ : Type} [Linked γ₁ σ₁] [Linked γ₂ σ₂] (F₁ : γ₁ → δ) (F₂ : γ₂ → δ)
    (run₁ : List (Except Error ρ) × γ₁) (run₂ : List (Except Error ρ) × γ₂) : Prop where
  results : run₁.1 = run₂.1
  clients : F₁ run₁.2 = F₂ run₂.2
  written : (Linked.link run₁.2).written = (Linked.link run₂.2).written
  unread : (Linked.link run₁.2).unread = (Linked.link run₂.2).unread

lemma SameRun.of_agree {γ₁ γ₂ δ κ₁ κ₂ κ ρ : Type} [Linked γ₁ σ₁] [Linked γ₂ σ₂] [Linked δ π]
    {F₁ : γ₁ → δ} {F₂ : γ₂ → δ} {G₁ : κ₁ → κ} {G₂ : κ₂ → κ} {perform₁ : κ₁ → EStateM Error γ₁ ρ}
    {perform₂ : κ₂ → EStateM Error γ₂ ρ} (h₁ : Linked.Respects view F₁)
    (h₂ : Linked.Respects view F₂)
    (h : ∀ call₁ call₂, G₁ call₁ = G₂ call₂ → Agree F₁ F₂ (perform₁ call₁) (perform₂ call₂))
    {calls₁ : List κ₁} {calls₂ : List κ₂} (hcalls : calls₁.map G₁ = calls₂.map G₂)
    {client₁ : γ₁} {client₂ : γ₂} (hclient : F₁ client₁ = F₂ client₂) :
    SameRun F₁ F₂ (runAll perform₁ calls₁ client₁) (runAll perform₂ calls₂ client₂) := by
  obtain ⟨hresults, hclients⟩ := agree_runAll h hcalls hclient
  have hlink := h₁.link_eq h₂ hclients
  exact ⟨hresults, hclients,
    congrArg (fun link : Link π => link.transport?.map Peer.written) hlink,
    congrArg (fun link : Link π => link.transport?.map Peer.unread) hlink⟩

/-- The clients of streams do not show how their transports cut up the bytes. Two transports that
carry the same peer may cut them into any pieces on the way in and out, and be interrupted
anywhere. From clients that are the same but for such transports, the same calls with the same
clocks and ids cannot be told apart. -/
theorem granularity_never_shows {ι : Type} [IdSource ι] :
    (∀ (s₁ : Status.Session σ₁) (s₂ : Status.Session σ₂) calls₁ calls₂,
      s₁.map (view : σ₁ → π) = s₂.map view →
      calls₁.map (Status.Call.map (view : σ₁ → π)) = calls₂.map (Status.Call.map view) →
      SameRun (Status.Session.map (view : σ₁ → π)) (Status.Session.map view)
        (runAll Status.Session.perform calls₁ s₁) (runAll Status.Session.perform calls₂ s₂)) ∧
    (∀ (s₁ : Legacy.Session σ₁) (s₂ : Legacy.Session σ₂) calls₁ calls₂,
      s₁.map (view : σ₁ → π) = s₂.map view →
      calls₁.map (Legacy.Call.map (view : σ₁ → π)) = calls₂.map (Legacy.Call.map view) →
      SameRun (Legacy.Session.map (view : σ₁ → π)) (Legacy.Session.map view)
        (runAll Legacy.Session.perform calls₁ s₁) (runAll Legacy.Session.perform calls₂ s₂)) ∧
    (∀ (s₁ : Rcon.Session σ₁ ι) (s₂ : Rcon.Session σ₂ ι) calls₁ calls₂,
      s₁.map (view : σ₁ → π) = s₂.map view →
      calls₁.map (Rcon.Call.map (view : σ₁ → π)) = calls₂.map (Rcon.Call.map view) →
      SameRun (Rcon.Session.map (view : σ₁ → π)) (Rcon.Session.map view)
        (runAll Rcon.Session.perform calls₁ s₁) (runAll Rcon.Session.perform calls₂ s₂)) := by
  refine ⟨?_, ?_, ?_⟩
  · intro s₁ s₂ calls₁ calls₂ hs hcalls
    exact .of_agree (Status.Session.respects_map view) (Status.Session.respects_map view)
      (fun _ _ h => Status.Session.agree_perform h) hcalls hs
  · intro s₁ s₂ calls₁ calls₂ hs hcalls
    exact .of_agree (Legacy.Session.respects_map view) (Legacy.Session.respects_map view)
      (fun _ _ h => Legacy.Session.agree_perform h) hcalls hs
  · intro s₁ s₂ calls₁ calls₂ hs hcalls
    exact .of_agree (Rcon.Session.respects_map view) (Rcon.Session.respects_map view)
      (fun _ _ h => Rcon.Session.agree_perform h) hcalls hs

/-- An answer that breaks off once and goes on. -/
def brokenAnswer : Traffic :=
  { incoming := [.ok 0xFF, .ok 0, .error Fault.timedOut, .ok 0xFF, .ok 0, .ok 1] }

/-- The answer in one piece. -/
def wholeAnswer : Cut Traffic := { peer := brokenAnswer }

/-- The answer byte by byte, with interruptions. -/
def slicedAnswer : Cut Traffic :=
  { peer := brokenAnswer, reads := [none, some 0, none, some 0], writes := [some 0, none, some 2] }

theorem granularity_of_sliced_answer :
    SameRun (Status.Session.map (view : Cut Traffic → Traffic)) (Status.Session.map view)
      (runAll Status.Session.perform [.connect slicedAnswer, .handshake, .handshake, .disconnect]
        { host := "localhost", port := 25565, parse := Json.parseObject })
      (runAll Status.Session.perform [.connect wholeAnswer, .handshake, .handshake, .disconnect]
        { host := "localhost", port := 25565, parse := Json.parseObject }) ∧
    SameRun (Legacy.Session.map (view : Cut Traffic → Traffic)) (Legacy.Session.map view)
      (runAll Legacy.Session.perform [.connect slicedAnswer, .ping .plain, .ping .pingHost]
        { host := "localhost", port := 25565 })
      (runAll Legacy.Session.perform [.connect wholeAnswer, .ping .plain, .ping .pingHost]
        { host := "localhost", port := 25565 }) ∧
    SameRun (Rcon.Session.map (view : Cut Traffic → Traffic)) (Rcon.Session.map view)
      (runAll Rcon.Session.perform [.connect slicedAnswer, .authenticate "", .command "list"]
        { ids := ({ next := 7, step := 1 } : Progression) })
      (runAll Rcon.Session.perform [.connect wholeAnswer, .authenticate "", .command "list"]
        { ids := ({ next := 7, step := 1 } : Progression) }) :=
  ⟨(granularity_never_shows (ι := Progression)).1 _ _ _ _ rfl rfl,
    (granularity_never_shows (ι := Progression)).2.1 _ _ _ _ rfl rfl,
    granularity_never_shows.2.2 _ _ _ _ rfl rfl⟩

end GameProbe
