import GameProbe.Proofs.Calls
import GameProbe.Proofs.Status.Operations
import GameProbe.Proofs.Transport.Overheard
import Mathlib.Data.List.Basic

/-!
# Progress of status sessions

What the phase of a status session tells of its link, and of the answers that came over it. The
phase and the link change at different moments, calls are made in any phase, and any of them may
fail at any point; all the same, a session that counts as told the status was told one, and it takes
a pong once at most until the next status.
-/

namespace GameProbe.Status

open EStateM.Result Overheard Decoder Wire

variable {σ : Type}

/-! ### Answers -/

/-- An answer that a session took, with the bytes that were heard of it. -/
inductive Milestone
  | status (heard : Bytes)
  | pong (heard : Bytes)

namespace Milestone

/-- The bytes of the answer. -/
def heard : Milestone → Bytes
  | status heard | pong heard => heard

/-- Whether the answer is one to a probe. -/
def isPong : Milestone → Bool
  | pong _ => true
  | status _ => false

/-- The bytes are just a frame of the right kind. There is a text in the body of a status that is
parsed as a JSON object, and room for a timestamp in that of a pong. -/
def Sound (parse : Parser) : Milestone → Prop
  | status heard => ∃ frame properties rest, readFrame heard = .ok frame [] ∧
      frame.packetId = handshakeId ∧ readProperties parse frame.body = .ok properties rest
  | pong heard => ∃ frame, readFrame heard = .ok frame [] ∧
      frame.packetId = pingId ∧ 8 ≤ frame.body.length

end Milestone

section Reading

variable [StreamTransport σ] {α : Type} {request : Bytes} {config : Config} {w w' : Overheard σ}
  {packetId : UInt64}

/-- A frame behind a request is all that is heard until it is read. -/
lemma heard_of_readFrameOf {k : Frame → Decoder (Overheard σ) α} {a : α}
    (h : (do writeRequest request; limitReads config; readFrameOf packetId >>= k) w = .ok a w') :
    ∃ frame w₁ heard, w₁.heard = w.heard ++ heard ∧ k frame w₁ = .ok a w' ∧
      readFrame heard = .ok frame [] ∧ frame.packetId = packetId := by
  obtain ⟨w₁, hunheard, h⟩ := unheard_of_request h
  obtain ⟨frame, w₂, hframeOf, h⟩ := bind_eq_ok_iff.mp h
  obtain ⟨frame', w₃, hframe, hcheck⟩ := bind_eq_ok_iff.mp hframeOf
  obtain ⟨heard, hheard, htakes⟩ := hears_readFrame _ _ _ hframe
  dsimp only at hcheck
  split at hcheck
  · cases hcheck
  · rename_i hid
    cases hcheck
    have hwhole := htakes []
    rw [List.append_nil] at hwhole
    exact ⟨frame, w₂, heard, by rw [hheard, hunheard], h, hwhole, not_ne_iff.mp hid⟩

lemma sound_of_readResponse {parse : Parser} {response : Response}
    (h : (do writeRequest request; limitReads config; readResponse parse) w = .ok response w') :
    ∃ heard, w'.heard = w.heard ++ heard ∧ (Milestone.status heard).Sound parse := by
  obtain ⟨frame, w₁, heard, hheard, h, hframe, hid⟩ := heard_of_readFrameOf h
  obtain ⟨properties, w₂, hwithin, h⟩ := bind_eq_ok_iff.mp h
  cases h
  obtain ⟨⟨rest, hproperties⟩, rfl⟩ := within_eq_ok_iff.mp hwithin
  exact ⟨heard, hheard, frame, properties, rest, hframe, hid, hproperties⟩

lemma sound_of_readPong (parse : Parser) {pong : Pong}
    (h : (do writeRequest request; limitReads config; readPong) w = .ok pong w') :
    ∃ heard, w'.heard = w.heard ++ heard ∧ (Milestone.pong heard).Sound parse := by
  obtain ⟨frame, w₁, heard, hheard, h, hframe, hid⟩ := heard_of_readFrameOf h
  obtain ⟨payload, w₂, hwithin, h⟩ := bind_eq_ok_iff.mp h
  cases h
  obtain ⟨⟨rest, hpayload⟩, rfl⟩ := within_eq_ok_iff.mp hwithin
  refine ⟨heard, hheard, frame, hframe, hid, ?_⟩
  by_contra hshort
  have hfill : fill 8 frame.body = .error (.connectionClosed 8 frame.body.length) [] := by
    rw [fill_apply, if_neg hshort]
  rw [readUInt64BE, bind_of_error hfill] at hpayload
  cases hpayload

end Reading

/-! ### Logs -/

variable {log : List Milestone}

/-- Every pong stands right behind a status. -/
def Alternating (log : List Milestone) : Prop :=
  ∀ front pong rest, log = front ++ .pong pong :: rest →
    ∃ before status, front = before ++ [.status status]

lemma Alternating.concat {milestone : Milestone} (h : Alternating log)
    (hlast : ∀ pong, milestone = .pong pong → ∃ before status, log = before ++ [.status status]) :
    Alternating (log ++ [milestone]) := by
  intro front pong rest heq
  obtain rfl | ⟨rest, last, rfl⟩ := rest.eq_nil_or_concat'
  · obtain ⟨rfl, hpong⟩ := List.append_inj' heq rfl
    exact hlast pong (List.singleton_inj.mp hpong)
  · rw [← List.cons_append, ← List.append_assoc] at heq
    exact h _ _ _ (List.append_inj' heq rfl).1

/-- Where nothing but pongs is, there is one of them at most. -/
lemma Alternating.length_le_one (h : Alternating log) {stretch : List Milestone}
    (hstretch : stretch <:+: log) (hpongs : ∀ milestone ∈ stretch, milestone.isPong) :
    stretch.length ≤ 1 := by
  obtain ⟨front, rest, rfl⟩ := hstretch
  match stretch with
  | [] | [_] => exact Nat.le_of_ble_eq_true rfl
  | first :: .status status :: later => cases hpongs (.status status) (by simp)
  | .status status :: second :: later => cases hpongs (.status status) (by simp)
  | .pong first :: .pong second :: later =>
    obtain ⟨before, status, heq⟩ := h (front ++ [.pong first]) second (later ++ rest) (by simp)
    cases (List.append_inj' heq rfl).2

/-! ### Sessions -/

/-- How the link of a session in a phase is. -/
def Phase.shape : Phase → Link Unit
  | unconnected => .unconnected
  | connected | handshakeDone | pingDone => .connected ()
  | disconnected => .disconnected ()

variable [StreamTransport σ] {session : Session (Overheard σ)} {w w' : Overheard σ}

namespace Session

omit [StreamTransport σ] in
/-- All that was heard over the link of a session. -/
def heard (session : Session (Overheard σ)) : Bytes :=
  match session.link.transport? with
  | some w => w.heard
  | none => []

/-- The answer that an operation takes if it succeeds, which is all that is heard during it. -/
def told {α : Type} (kind : Bytes → Milestone) (op : EStateM Error (Session (Overheard σ)) α)
    (session : Session (Overheard σ)) : List Milestone :=
  match op session with
  | .ok _ session' => [kind (session'.heard.drop session.heard.length)]
  | .error .. => []

/-- The answers that a session takes during a call. -/
def reached (session : Session (Overheard σ)) : Call (Overheard σ) → List Milestone
  | .connect _ | .disconnect => []
  | .handshake => told .status handshake session
  | .ping timing => told .pong (ping timing) session
  | .status timing => told .status handshake session ++
    match handshake session with
    | .ok _ session' => told .pong (ping timing) session'
    | .error .. => []

/-- The answers that a session takes during calls. -/
def milestones (session : Session (Overheard σ)) : List (Call (Overheard σ)) → List Milestone
  | [] => []
  | call :: calls => session.reached call ++ (perform call session).state.milestones calls

section

variable {α : Type} {kind : Bytes → Milestone} {op : EStateM Error (Session (Overheard σ)) α}
  {session' : Session (Overheard σ)}

omit [StreamTransport σ] in
lemma told_of_ok {a : α} {answer : Bytes} (hop : op session = .ok a session')
    (hheard : session'.heard = session.heard ++ answer) : told kind op session = [kind answer] := by
  simp only [told, hop, hheard, List.drop_left]

omit [StreamTransport σ] in
lemma told_of_error {e : Error} (hop : op session = .error e session') :
    told kind op session = [] := by
  simp only [told, hop]

end

omit [StreamTransport σ] in
lemma heard_of_connected (hlink : session.link = .connected w) : session.heard = w.heard := by
  rw [heard, hlink]
  rfl

end Session

open Session

/-- What is known of a session with a parser that took the answers in the log. -/
structure Tracked (parse : Parser) (log : List Milestone) (session : Session (Overheard σ)) :
    Prop where
  parse_eq : session.parse = parse
  shape_link : session.link.shape = session.phase.shape
  handshakeDone : session.phase = .handshakeDone → ∃ front status, log = front ++ [.status status]
  pingDone : session.phase = .pingDone →
    ∃ front status pong, log = front ++ [.status status] ++ [.pong pong]
  sound : ∀ milestone ∈ log, milestone.Sound parse
  heard : (log.flatMap Milestone.heard).Sublist session.heard
  alternating : Alternating log

namespace Tracked

variable {parse : Parser} {milestone : Milestone}

section

omit [StreamTransport σ]

lemma sound_concat (h : Tracked parse log session) (hsound : milestone.Sound parse) :
    ∀ m ∈ log ++ [milestone], m.Sound parse :=
  List.forall_mem_append.mpr ⟨h.sound, List.forall_mem_singleton.mpr hsound⟩

lemma heard_concat (h : Tracked parse log session) {heard : Bytes}
    (hheard : heard = session.heard ++ milestone.heard) :
    ((log ++ [milestone]).flatMap Milestone.heard).Sublist heard := by
  rw [hheard, List.flatMap_append, List.flatMap_singleton]
  exact h.heard.append_right _

/-- Of an operation that fails some part of an answer may have been heard. -/
lemma of_heardMore (h : Tracked parse log session) (hlink : session.link = .connected w)
    (hheard : HeardMore w w') : Tracked parse log { session with link := .connected w' } where
  parse_eq := h.parse_eq
  shape_link := by
    rw [← h.shape_link, hlink]
    rfl
  handshakeDone := h.handshakeDone
  pingDone := h.pingDone
  sound := h.sound
  heard := (heard_of_connected hlink ▸ h.heard).trans hheard.sublist
  alternating := h.alternating

lemma connected (h : Tracked parse log session) (hphase : session.phase.shape = .connected ()) :
    ∃ w, session.link = .connected w :=
  Link.shape_eq_connected.mp (h.shape_link.trans hphase)

end

/-! ### One call -/

omit [StreamTransport σ] in
lemma connect (h : Tracked parse log session) (t : Overheard σ) :
    Tracked parse log (connect t session).state := by
  rw [connect_apply]
  cases hlink : session.link with
  | connected w | disconnected w => exact h
  | unconnected =>
    have hheard : session.heard = [] := by
      rw [Session.heard, hlink]
      rfl
    refine ⟨h.parse_eq, rfl, nofun, nofun, h.sound, ?_, h.alternating⟩
    exact (hheard ▸ h.heard).trans (List.nil_sublist _)

lemma handshake (h : Tracked parse log session) :
    Tracked parse (log ++ told .status handshake session) (handshake session).state := by
  rcases session.link.not_connected_or with hlink | ⟨w, hlink⟩
  · have hrefused := handshake_of_not_connected hlink
    rwa [told_of_error hrefused, hrefused, List.append_nil]
  have hrun := handshake_of_connected hlink
  cases hask : askStatus session w with
  | error e w' =>
    rw [hask] at hrun
    rw [told_of_error hrun, hrun, List.append_nil]
    exact h.of_heardMore hlink ((moves_askStatus talks_heardMore session).of_error hask)
  | ok response w' =>
    rw [hask] at hrun
    obtain ⟨answer, hheard, hsound⟩ := sound_of_readResponse hask
    rw [h.parse_eq] at hsound
    rw [← heard_of_connected hlink] at hheard
    rw [told_of_ok hrun hheard, hrun]
    refine ⟨h.parse_eq, rfl, fun _ => ⟨log, answer, rfl⟩, nofun, h.sound_concat hsound, ?_, ?_⟩
    · exact h.heard_concat hheard
    · exact h.alternating.concat nofun

lemma ping (h : Tracked parse log session) (timing : Timing) :
    Tracked parse (log ++ told .pong (ping timing) session) (ping timing session).state := by
  by_cases hphase : session.phase = .handshakeDone
  case neg =>
    have hrefused := ping_of_phase timing hphase
    rwa [told_of_error hrefused, hrefused, List.append_nil]
  obtain ⟨w, hlink⟩ := h.connected (by rw [hphase]; rfl)
  have hrun := ping_of_connected timing hphase hlink
  cases hprobe : probe session timing w with
  | error e w' =>
    rw [hprobe] at hrun
    rw [told_of_error hrun, hrun, List.append_nil]
    exact h.of_heardMore hlink ((moves_probe talks_heardMore session timing).of_error hprobe)
  | ok pong w' =>
    rw [hprobe] at hrun
    obtain ⟨answer, hheard, hsound⟩ := sound_of_readPong parse hprobe
    rw [← heard_of_connected hlink] at hheard
    rw [told_of_ok hrun hheard, hrun]
    -- only now is the log known to end with a status, behind which the pong comes
    obtain ⟨front, status, hlast⟩ := h.handshakeDone hphase
    refine ⟨h.parse_eq, rfl, nofun, ?_, h.sound_concat hsound, ?_, ?_⟩
    · exact fun _ => ⟨front, status, answer, by rw [hlast]⟩
    · exact h.heard_concat hheard
    · exact h.alternating.concat fun _ _ => ⟨front, status, hlast⟩

lemma disconnect (h : Tracked parse log session) :
    Tracked parse log (disconnect session).state := by
  cases hlink : session.link with
  | unconnected =>
    rw [disconnect_of_not_connected (by rw [hlink]; rfl), afterRelease, hlink]
    exact h
  | connected w =>
    rw [state_disconnect_of_connected hlink]
    refine ⟨h.parse_eq, rfl, nofun, nofun, h.sound, ?_, h.alternating⟩
    have hheard : (liftIo Transport.close w).state.heard = w.heard := deaf_close.liftIo w
    exact (heard_of_connected hlink ▸ h.heard).trans (hheard ▸ List.Sublist.refl _)
  | disconnected w =>
    -- nothing changes, since the phase is that of a closed link already
    rw [disconnect_of_not_connected (by rw [hlink]; rfl), afterRelease, hlink]
    refine ⟨h.parse_eq, ?_, nofun, nofun, h.sound, h.heard, h.alternating⟩
    exact Link.shape_eq_disconnected.mpr ⟨w, hlink⟩

lemma perform (h : Tracked parse log session) (call : Call (Overheard σ)) :
    Tracked parse (log ++ session.reached call) (perform call session).state := by
  cases call with
  | connect t =>
    rw [Session.perform, state_bind_pure, reached, List.append_nil]
    exact h.connect t
  | handshake =>
    rw [Session.perform, state_bind_pure]
    exact h.handshake
  | ping timing =>
    rw [Session.perform, state_bind_pure]
    exact h.ping timing
  | status timing =>
    rw [Session.perform, state_bind_pure, state_status]
    have hhandshake := h.handshake
    rw [reached, ← List.append_assoc]
    cases hrun : Session.handshake session with
    | ok properties session' =>
      rw [hrun] at hhandshake
      exact hhandshake.ping timing
    | error e session' =>
      rw [hrun] at hhandshake
      rwa [List.append_nil]
  | disconnect =>
    rw [Session.perform, state_bind_pure, reached, List.append_nil]
    exact h.disconnect

lemma runAll (h : Tracked parse log session) (calls : List (Call (Overheard σ))) :
    Tracked parse (log ++ session.milestones calls) (runAll Session.perform calls session).2 := by
  induction calls generalizing log session with
  | nil => rwa [milestones, List.append_nil]
  | cons call calls ih =>
    rw [runAll_cons, milestones, ← List.append_assoc]
    exact ih (h.perform call)

end Tracked

/-! ### Whole runs -/

/-- What a status session is like that took the answers in the log, and what its next operation can
do to it. -/
structure Progress (parse : Parser) (log : List Milestone) (session : Session (Overheard σ)) : Prop
    extends Tracked parse log session where
  unconnected_iff : session.phase = .unconnected ↔ session.link = .unconnected
  connected_iff : session.phase = .connected ∨ session.phase = .handshakeDone ∨
    session.phase = .pingDone ↔ ∃ w, session.link = .connected w
  disconnected_iff : session.phase = .disconnected ↔ ∃ w, session.link = .disconnected w
  /-- Between two statuses there is one pong at most. -/
  length_le_one : ∀ stretch, stretch <:+: log → (∀ milestone ∈ stretch, milestone.isPong) →
    stretch.length ≤ 1
  handshake_error : ∀ e session', handshake session = .error e session' →
    session'.phase = session.phase ∧ session'.link.shape = session.link.shape
  ping_error : ∀ timing e session', ping timing session = .error e session' →
    session'.phase = session.phase ∧ session'.link.shape = session.link.shape
  /-- Without a status behind which no pong came, nothing is done at all, so no probe is written. -/
  ping_refused : ∀ timing, session.phase ≠ .handshakeDone →
    ping timing session =
      .error (if session.link.isConnected then .handshakeRequired "ping" else .notConnected) session

/-- All the rest is known of every session that was tracked. -/
lemma Progress.of_tracked {parse : Parser} (h : Tracked parse log session) :
    Progress parse log session where
  toTracked := h
  unconnected_iff := by
    rw [← Link.shape_eq_unconnected, h.shape_link]
    cases session.phase <;> simp [Phase.shape]
  connected_iff := by
    rw [← Link.shape_eq_connected, h.shape_link]
    cases session.phase <;> simp [Phase.shape]
  disconnected_iff := by
    rw [← Link.shape_eq_disconnected, h.shape_link]
    cases session.phase <;> simp [Phase.shape]
  length_le_one _ := h.alternating.length_le_one
  handshake_error _ _ := shape_of_handshake_error
  ping_error _ _ _ := shape_of_ping_error
  ping_refused := ping_of_phase

/-- Whatever is called on a new session, and whatever its server and its transport do: the phase
tells whether the link is unconnected, connected or closed. Once the handshake counts as done, the
last answer that was heard over the connection is a status, a frame with its packet id and a text
that is parsed as a JSON object, and once the ping counts as done, the last is a pong, a frame with
its packet id and a timestamp, right behind such a status. A handshake or a ping that fails leaves
the phase and the link as they were, and a ping does nothing but behind a handshake, so that no two
pings succeed without a handshake in between. -/
theorem phases_tell_progress (host : String) (port : UInt16) (config : Config) (parse : Parser)
    (calls : List (Call (Overheard σ))) :
    Progress parse (milestones ({ host, port, config, parse } : Session (Overheard σ)) calls)
      (runAll Session.perform calls ({ host, port, config, parse } : Session (Overheard σ))).2 := by
  have hfresh : Tracked parse [] ({ host, port, config, parse } : Session (Overheard σ)) :=
    ⟨rfl, rfl, nofun, nofun, nofun, List.nil_sublist _, fun front _ _ h => by simp at h⟩
  exact .of_tracked (hfresh.runAll calls)

end GameProbe.Status
