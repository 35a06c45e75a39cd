import GameProbe.Proofs.Calls
import GameProbe.Proofs.Rcon.Operations
import GameProbe.Proofs.Status.Operations
import GameProbe.Proofs.Transport.Watched
import Mathlib.Data.List.Forall2

/-!
# Lifecycle

The life of a connection over any calls of a client. The first transport that is offered is taken
up, used, and closed once; nothing is done with it afterwards, and no other is ever taken up.
-/

namespace GameProbe

open EStateM.Result Watched

/-! ### One call -/

/-- A call as the link of the client sees it. -/
inductive Link.Call (σ : Type)
  | connect (transport : σ)
  | operation
  | disconnect

/-- Whether a transport is offered. -/
def Link.Call.isConnect {σ : Type} : Link.Call σ → Bool
  | connect _ => true
  | _ => false

/-- Whether the connection is to be closed. -/
def Link.Call.isDisconnect {σ : Type} : Link.Call σ → Bool
  | disconnect => true
  | _ => false

/-- What a call brings, and how it takes one link to another. An operation without a connection
fails with `refusal`. -/
inductive Link.Step {σ ρ : Type} (refusal : Error) :
    Link.Call (Watched σ) → Link (Watched σ) → Except Error ρ → Link (Watched σ) → Prop
  | connect {t : Watched σ} {result : ρ} :
    Step refusal (.connect t) .unconnected (.ok result) (.connected t)
  | connectAgain {t w : Watched σ} :
    Step refusal (.connect t) (.connected w) (.error .alreadyConnected) (.connected w)
  | connectLate {t w : Watched σ} :
    Step refusal (.connect t) (.disconnected w) (.error .connectionTerminated) (.disconnected w)
  | operation {w w' : Watched σ} {result : Except Error ρ} (used : Used w w') :
    Step refusal .operation (.connected w) result (.connected w')
  | operationRefused {link : Link (Watched σ)} (refused : link.isConnected = false) :
    Step refusal .operation link (.error refusal) link
  /-- The connection is given up even when closing it fails. -/
  | disconnect {w w' : Watched σ} {result : Except Error ρ} (closed : w'.acts = w.acts ++ [.close])
    (outcome : (∃ r, result = .ok r) ∨ ∃ e, result = .error (.io e)) :
    Step refusal .disconnect (.connected w) result (.disconnected w')
  | disconnectRefused {link : Link (Watched σ)} (refused : link.isConnected = false) :
    Step refusal .disconnect link (.error .notConnected) link

namespace Link.Step

variable {σ ρ ρ' : Type} {refusal : Error} {call : Link.Call (Watched σ)}
  {link link' : Link (Watched σ)} {w : Watched σ} {result : Except Error ρ}

/-- What exactly a success brings has no part in the link. -/
lemma ok_congr {r : ρ} (h : Step refusal call link (.ok r) link') (r' : ρ') :
    Step refusal call link (.ok r') link' := by
  cases h with
  | connect => exact .connect
  | operation used => exact .operation used
  | disconnect closed => exact .disconnect closed (.inl ⟨r', rfl⟩)

lemma error_congr {e : Error} (h : Step refusal call link (.error e : Except Error ρ) link') :
    Step refusal call link (.error e : Except Error ρ') link' := by
  cases h with
  | connectAgain => exact .connectAgain
  | connectLate => exact .connectLate
  | operation used => exact .operation used
  | operationRefused refused => exact .operationRefused refused
  | disconnect closed outcome =>
    refine .disconnect closed (.inr ?_)
    obtain ⟨r, ⟨⟩⟩ | ⟨e, ⟨⟩⟩ := outcome
    exact ⟨e, rfl⟩
  | disconnectRefused refused => exact .disconnectRefused refused

/-- Only a connect takes a link out of its first state. -/
lemma unconnected (h : Step refusal call .unconnected result link')
    (hcall : call.isConnect = false) : link' = .unconnected := by
  cases h with
  | connect => cases hcall
  | operationRefused | disconnectRefused => rfl

/-- The first transport that is offered is taken up as it is. -/
lemma connects {t : Watched σ} (h : Step refusal (.connect t) .unconnected result link') :
    link' = .connected t := by
  cases h
  rfl

/-- A transport that is offered to a connected client changes nothing. -/
lemma reconnects {t : Watched σ} (h : Step refusal (.connect t) (.connected w) result link') :
    link' = .connected w := by
  cases h
  rfl

/-- Once a transport was offered, there is a connection, or there was one. -/
lemma offered {t : Watched σ} (h : Step refusal (.connect t) link result link') :
    link'.refusal? ≠ none := by
  cases h <;> nofun

/-- Only a disconnect gives a connection up, and everything else only uses it. -/
lemma connected (h : Step refusal call (.connected w) result link')
    (hcall : call.isDisconnect = false) : ∃ w', link' = .connected w' ∧ Used w w' := by
  cases h with
  | connectAgain => exact ⟨w, rfl, refl w⟩
  | operation used => exact ⟨_, rfl, used⟩
  | operationRefused refused => cases refused
  | disconnect => cases hcall
  | disconnectRefused => cases hcall

lemma disconnects (h : Step refusal .disconnect (.connected w) result link') :
    ∃ w', link' = .disconnected w' ∧ w'.acts = w.acts ++ [.close] := by
  cases h with
  | disconnect closed => exact ⟨_, rfl, closed⟩
  | disconnectRefused refused => cases refused

/-- A link that was connected once is never unconnected again. -/
lemma refusal?_ne_none (h : Step refusal call link result link') (hlink : link.refusal? ≠ none) :
    link'.refusal? ≠ none := by
  cases h with
  | connect => exact absurd rfl hlink
  | connectAgain | connectLate | operation | disconnect => nofun
  | operationRefused | disconnectRefused => exact hlink

/-- Nothing happens to a closed link. -/
lemma disconnected (h : Step refusal call (.disconnected w) result link') :
    link' = .disconnected w := by
  cases h <;> rfl

end Link.Step

/-! ### Operations over links -/

/-- A client whose link is the one that it was given last. -/
class LawfulLinked (γ : Type) {σ : outParam Type} [Linked γ σ] : Prop where
  link_setLink : ∀ (l : Link σ) (client : γ), Linked.link (Linked.setLink l client) = l

namespace Linked

open LawfulLinked

variable {γ σ α β : Type} [Linked γ (Watched σ)]

/-- The operation is such a call on every client. -/
def Steps (refusal : Error) (call : Link.Call (Watched σ)) (op : EStateM Error γ α) : Prop :=
  ∀ client, Link.Step refusal call (link client) (op client).toExcept (link (op client).state)

/-- A connection stays, and may be used. -/
def Keeps (client client' : γ) : Prop :=
  ∀ w, link client = .connected w → ∃ w', link client' = .connected w' ∧ Used w w'

instance : IsPreorder γ Keeps where
  refl _ w h := ⟨w, h, refl w⟩
  trans := by
    intro a b c hab hbc w h
    obtain ⟨w₁, h₁, hused₁⟩ := hab w h
    obtain ⟨w₂, h₂, hused₂⟩ := hbc w₁ h₁
    exact ⟨w₂, h₂, trans_of _ hused₁ hused₂⟩

/-- Without a connection the operation fails, and leaves the client as it is. -/
def Refuses (refusal : Error) (op : EStateM Error γ α) : Prop :=
  ∀ client, (link client).isConnected = false → op client = .error refusal client

variable {refusal : Error} {call : Link.Call (Watched σ)} {op : EStateM Error γ α}
  {k : α → EStateM Error γ β}

lemma Refuses.bind (h : Refuses refusal op) (k : α → EStateM Error γ β) :
    Refuses refusal (op >>= k) := fun client hlink => bind_of_error (h client hlink)

lemma Refuses.get_bind {k : γ → EStateM Error γ β} (h : ∀ client, Refuses refusal (k client)) :
    Refuses refusal (get >>= k) := fun client hlink => h client client hlink

lemma refuses_use (act : EStateM Error (Watched σ) α) :
    Refuses .notConnected (use act : EStateM Error γ α) :=
  fun _ => use_of_not_connected act

lemma moves_modify {f : γ → γ} (hf : ∀ client, link (f client) = link client) :
    Moves Keeps (modify f : EStateM Error γ Unit) :=
  fun client w hw => ⟨w, (hf client).trans hw, refl w⟩

lemma moves_ensureConnected : Moves Keeps (ensureConnected : EStateM Error γ Unit) := by
  intro client
  unfold ensureConnected
  split <;> exact refl client

lemma steps_operation (hkeeps : Moves Keeps op) (hrefuses : Refuses refusal op) :
    Steps refusal .operation op := by
  intro client
  rcases (link client).not_connected_or with hlink | ⟨w, hlink⟩
  · rw [hrefuses client hlink]
    exact .operationRefused hlink
  · obtain ⟨w', hlink', hused⟩ := hkeeps client w hlink
    rw [hlink, hlink']
    exact .operation hused

/-- What comes behind a success and leaves the link alone has no part in the step. -/
lemma Steps.bind (h : Steps refusal call op)
    (hk : ∀ a client, ∃ b client', k a client = .ok b client' ∧ link client' = link client) :
    Steps refusal call (op >>= k) := by
  intro client
  have hstep := h client
  cases hop : op client with
  | ok a client₁ =>
    obtain ⟨b, client', hk, hlink⟩ := hk a client₁
    rw [hop] at hstep
    rw [bind_of_ok hop, hk, state_ok, hlink]
    exact hstep.ok_congr b
  | error e client₁ =>
    rw [hop] at hstep
    rw [bind_of_error hop]
    exact hstep.error_congr

lemma Steps.map (h : Steps refusal call op) (g : α → β) :
    Steps refusal call (op >>= fun a => pure (g a)) :=
  h.bind fun a client => ⟨g a, client, rfl, rfl⟩

/-- What comes first and leaves the link alone has no part in the step. -/
lemma Steps.modify_bind {f : γ → γ} {k : Unit → EStateM Error γ β} (h : Steps refusal call (k ()))
    (hf : ∀ client, link (f client) = link client) :
    Steps refusal call (modify f >>= k) := by
  intro client
  have hstep := h (f client)
  rw [hf] at hstep
  exact hstep

variable [LawfulLinked γ]

lemma moves_use {act : EStateM Error (Watched σ) α} (hact : Moves Used act) :
    Moves Keeps (use act : EStateM Error γ α) := by
  intro client w hw
  refine ⟨(act w).state, ?_, hact w⟩
  rw [use_of_connected act hw, state_mapState, link_setLink]

lemma steps_attach (t : Watched σ) :
    Steps refusal (.connect t) (attach t : EStateM Error γ Unit) := by
  intro client
  cases hlink : link client with
  | unconnected =>
    have hcheck : ensureUnconnected client = .ok () client := by rw [ensureUnconnected, hlink]
    have h : attach t client = .ok () (setLink (.connected t) client) := bind_of_ok hcheck
    rw [h, state_ok, link_setLink]
    exact .connect
  | connected w =>
    have h : attach t client = .error .alreadyConnected client :=
      attach_of_refusal t (by rw [hlink]; rfl)
    rw [h, state_error, hlink]
    exact .connectAgain
  | disconnected w =>
    have h : attach t client = .error .connectionTerminated client :=
      attach_of_refusal t (by rw [hlink]; rfl)
    rw [h, state_error, hlink]
    exact .connectLate

lemma steps_release [Transport σ] :
    Steps refusal .disconnect (release : EStateM Error γ Unit) := by
  intro client
  rcases (link client).not_connected_or with hlink | ⟨w, hlink⟩
  · rw [release_of_not_connected hlink]
    exact .disconnectRefused hlink
  · have hacts := acts_close w
    rw [release_of_connected hlink, state_mapState, toExcept_mapState, link_setLink, hlink]
    refine .disconnect hacts ?_
    unfold liftIo
    split
    · exact .inl ⟨(), rfl⟩
    · rename_i e w' h
      exact .inr ⟨e, rfl⟩

end Linked

/-! ### Whole runs -/

section Runs

open Linked

variable {γ σ κ ρ : Type} [Linked γ (Watched σ)]

/-- A transport that comes when a connection was made before is turned away, and the client is left
as it is. -/
def TurnsAway (perform : κ → EStateM Error γ ρ) (onLink : κ → Link.Call (Watched σ)) : Prop :=
  ∀ call t client e, onLink call = .connect t → (link client).refusal? = some e →
    perform call client = .error e client

/-- The calls are the same, except for the transport that they may offer. -/
inductive SameButOffer (onLink : κ → Link.Call (Watched σ)) : κ → κ → Prop
  | same (call : κ) : SameButOffer onLink call call
  | offers {call call' : κ} {t t' : Watched σ} (h : onLink call = .connect t)
    (h' : onLink call' = .connect t') : SameButOffer onLink call call'

/-- The life of the connection of a client, over any calls that start with a fresh one. -/
structure Lifecycle (perform : κ → EStateM Error γ ρ) (onLink : κ → Link.Call (Watched σ))
    (refusal : κ → Error) (fresh : γ) : Prop where
  /-- What the next call brings and does to the link. -/
  step : ∀ calls call,
    Link.Step (refusal call) (onLink call) (link (runAll perform calls fresh).2)
      (perform call (runAll perform calls fresh).2).toExcept
      (link (perform call (runAll perform calls fresh).2).state)
  /-- Before a transport is offered, there is none. -/
  unconnected : ∀ calls, (∀ call ∈ calls, (onLink call).isConnect = false) →
    link (runAll perform calls fresh).2 = .unconnected
  /-- From the first connect to the next disconnect the client has the transport that it was
  offered first, and has not closed it. -/
  connected : ∀ early call t later, (∀ call ∈ early, (onLink call).isConnect = false) →
    onLink call = .connect t → (∀ call ∈ later, (onLink call).isDisconnect = false) →
    ∃ w, link (runAll perform (early ++ call :: later) fresh).2 = .connected w ∧ Used t w
  /-- The first disconnect from then on closes it, once, and nothing is done with it later. -/
  disconnected : ∀ early call t later close rest,
    (∀ call ∈ early, (onLink call).isConnect = false) → onLink call = .connect t →
    (∀ call ∈ later, (onLink call).isDisconnect = false) → onLink close = .disconnect →
    ∃ w acts, w.acts = t.acts ++ acts ++ [.close] ∧ Act.close ∉ acts ∧
      link (runAll perform (early ++ call :: (later ++ [close])) fresh).2 = .disconnected w ∧
      link (runAll perform (early ++ call :: (later ++ close :: rest)) fresh).2 = .disconnected w
  /-- Nothing is done with a transport that is offered later. Whatever comes in its place, all calls
  bring the same, and the client is the same in the end. -/
  offers : ∀ early call t later later', onLink call = .connect t →
    List.Forall₂ (SameButOffer onLink) later later' →
    runAll perform (early ++ call :: later) fresh = runAll perform (early ++ call :: later') fresh

variable {perform : κ → EStateM Error γ ρ} {onLink : κ → Link.Call (Watched σ)}
  {refusal : κ → Error} {client : γ} {w : Watched σ} {calls calls' : List κ}

lemma unconnected_runAll (hsteps : ∀ call, Steps (refusal call) (onLink call) (perform call))
    (hlink : link client = .unconnected)
    (hcalls : ∀ call ∈ calls, (onLink call).isConnect = false) :
    link (runAll perform calls client).2 = .unconnected := by
  induction calls generalizing client with
  | nil => exact hlink
  | cons call calls ih =>
    have hstep := hsteps call client
    rw [hlink] at hstep
    rw [runAll_cons]
    refine ih (hstep.unconnected (hcalls call List.mem_cons_self)) ?_
    exact fun call h => hcalls call (List.mem_cons_of_mem _ h)

lemma connected_runAll (hsteps : ∀ call, Steps (refusal call) (onLink call) (perform call))
    (hlink : link client = .connected w)
    (hcalls : ∀ call ∈ calls, (onLink call).isDisconnect = false) :
    ∃ w', link (runAll perform calls client).2 = .connected w' ∧ Used w w' := by
  induction calls generalizing client w with
  | nil => exact ⟨w, hlink, refl w⟩
  | cons call calls ih =>
    have hstep := hsteps call client
    rw [hlink] at hstep
    obtain ⟨w₁, hlink₁, hused₁⟩ := hstep.connected (hcalls call List.mem_cons_self)
    obtain ⟨w₂, hlink₂, hused₂⟩ := ih hlink₁ fun call h => hcalls call (List.mem_cons_of_mem _ h)
    rw [runAll_cons]
    exact ⟨w₂, hlink₂, trans_of _ hused₁ hused₂⟩

lemma disconnected_runAll (hsteps : ∀ call, Steps (refusal call) (onLink call) (perform call))
    (hlink : link client = .disconnected w) (calls : List κ) :
    link (runAll perform calls client).2 = .disconnected w := by
  induction calls generalizing client with
  | nil => exact hlink
  | cons call calls ih =>
    have hstep := hsteps call client
    rw [hlink] at hstep
    rw [runAll_cons]
    exact ih hstep.disconnected

/-- With a connection, no call depends on the transport that it may offer. -/
lemma runAll_eq_of_offers (hsteps : ∀ call, Steps (refusal call) (onLink call) (perform call))
    (haway : TurnsAway perform onLink) (hlink : (link client).refusal? ≠ none)
    (h : List.Forall₂ (SameButOffer onLink) calls calls') :
    runAll perform calls client = runAll perform calls' client := by
  induction h generalizing client with
  | nil => rfl
  | @cons call call' calls calls' hcall _ ih =>
    have hsame : perform call client = perform call' client := by
      cases hcall with
      | same => rfl
      | offers h h' =>
        obtain ⟨e, he⟩ := Option.ne_none_iff_exists'.mp hlink
        rw [haway call _ client e h he, haway call' _ client e h' he]
    rw [runAll_cons, runAll_cons, hsame, ih (hsame ▸ (hsteps call client).refusal?_ne_none hlink)]

/-- The life of a connection follows from what each call does to a link. -/
theorem Lifecycle.of_steps {fresh : γ}
    (hsteps : ∀ call, Steps (refusal call) (onLink call) (perform call))
    (haway : TurnsAway perform onLink) (hfresh : link fresh = .unconnected) :
    Lifecycle perform onLink refusal fresh := by
  have hconnected : ∀ early call t later, (∀ call ∈ early, (onLink call).isConnect = false) →
      onLink call = .connect t → (∀ call ∈ later, (onLink call).isDisconnect = false) →
      ∃ w, link (runAll perform (early ++ call :: later) fresh).2 = .connected w ∧ Used t w := by
    intro early call t later hearly hcall hlater
    have hstep := hsteps call (runAll perform early fresh).2
    rw [unconnected_runAll hsteps hfresh hearly, hcall] at hstep
    rw [runAll_append, runAll_cons]
    exact connected_runAll hsteps hstep.connects hlater
  refine ⟨fun calls call => hsteps call _, ?_, hconnected, ?_, ?_⟩
  · intro calls hcalls
    exact unconnected_runAll hsteps hfresh hcalls
  · intro early call t later close rest hearly hcall hlater hclose
    obtain ⟨w, hlink, acts, hacts, hopen⟩ := hconnected early call t later hearly hcall hlater
    have hstep := hsteps close (runAll perform (early ++ call :: later) fresh).2
    rw [hlink, hclose] at hstep
    obtain ⟨w', hlink', hacts'⟩ := hstep.disconnects
    have hall (rest : List κ) :
        link (runAll perform (early ++ call :: (later ++ close :: rest)) fresh).2 =
          .disconnected w' := by
      rw [← List.cons_append, ← List.append_assoc, runAll_append, runAll_cons]
      exact disconnected_runAll hsteps hlink' rest
    refine ⟨w', acts, ?_, hopen, hall [], hall rest⟩
    rw [hacts', hacts]
  · intro early call t later later' hcall hlater
    have hstep := hsteps call (runAll perform early fresh).2
    rw [hcall] at hstep
    rw [runAll_append, runAll_append, runAll_cons, runAll_cons,
      runAll_eq_of_offers hsteps haway hstep.offered hlater]

end Runs

/-! ### Status sessions -/

open Linked

variable {σ δ ι : Type} [StreamTransport σ] [DatagramTransport δ]

namespace Status

/-- The call as the link sees it. -/
def Call.onLink : Call σ → Link.Call σ
  | connect transport => .connect transport
  | handshake | ping _ | status _ => .operation
  | disconnect => .disconnect

namespace Session

instance : LawfulLinked (Session σ) where
  link_setLink _ _ := rfl

variable {refusal : Error}

lemma moves_handshake : Moves Keeps (handshake : EStateM Error (Session (Watched σ)) _) := by
  refine .get_bind fun session => (moves_use ?_).bind fun response => (moves_modify ?_).map _
  · exact moves_askStatus talks_used session
  · exact fun _ => rfl

lemma refuses_handshake :
    Refuses .notConnected (handshake : EStateM Error (Session (Watched σ)) _) :=
  fun _ => handshake_of_not_connected

lemma moves_ping (timing : Timing) :
    Moves Keeps (ping timing : EStateM Error (Session (Watched σ)) _) := by
  refine .get_bind fun session => ?_
  dsimp only
  split
  · exact moves_ensureConnected.bind fun _ => .throw _
  · refine (moves_use ?_).bind fun pong => (moves_modify ?_).map _
    · exact moves_probe talks_used session timing
    · exact fun _ => rfl

lemma refuses_ping (timing : Timing) :
    Refuses .notConnected (ping timing : EStateM Error (Session (Watched σ)) _) :=
  fun _ => ping_of_not_connected timing

lemma moves_status (timing : Timing) :
    Moves Keeps (status timing : EStateM Error (Session (Watched σ)) _) := by
  refine moves_handshake.bind fun properties =>
    .map ?_ (Checked.map fun latency => (properties, latency))
  intro session
  rw [state_unlessUnexpected]
  exact moves_ping timing session

omit [StreamTransport σ] in
lemma link_afterRelease (session : Session σ) : (afterRelease session).link = session.link := by
  unfold afterRelease
  split <;> rfl

lemma steps_disconnect :
    Steps refusal .disconnect (disconnect : EStateM Error (Session (Watched σ)) _) := by
  intro session
  have hstep : Link.Step refusal .disconnect (link session) _ _ := steps_release session
  unfold disconnect
  cases h : (Linked.release session : EStateM.Result Error (Session (Watched σ)) Unit) with
  | ok _ session' =>
    rw [h] at hstep
    show Link.Step _ _ _ _ (afterRelease session').link
    rw [link_afterRelease]
    exact hstep
  | error e session' =>
    rw [h] at hstep
    show Link.Step _ _ _ _ (afterRelease session').link
    rw [link_afterRelease]
    exact hstep

lemma turnsAway_perform : TurnsAway
    (perform : Call (Watched σ) → EStateM Error (Session (Watched σ)) Outcome) Call.onLink := by
  rintro (t | _ | _ | _ | _) _ session e ⟨⟩ h
  exact bind_of_error (bind_of_error (attach_of_refusal t h))

lemma steps_perform (call : Call (Watched σ)) :
    Steps .notConnected call.onLink (perform call : EStateM Error (Session (Watched σ)) _) := by
  cases call with
  | connect t =>
    refine ((steps_attach t).bind fun _ session => ?_).map fun _ => Outcome.done
    exact ⟨(), inPhase .connected session, rfl, rfl⟩
  | handshake => exact (steps_operation moves_handshake refuses_handshake).map Outcome.properties
  | ping timing =>
    exact (steps_operation (moves_ping timing) (refuses_ping timing)).map Outcome.latency
  | status timing =>
    exact (steps_operation (moves_status timing) (refuses_handshake.bind _)).map Outcome.status
  | disconnect => exact steps_disconnect.map fun _ => Outcome.done

end Session

end Status

/-! ### Legacy sessions -/

namespace Legacy

/-- The call as the link sees it. -/
def Call.onLink : Call σ → Link.Call σ
  | connect transport => .connect transport
  | ping _ | timedPing _ _ => .operation
  | disconnect => .disconnect

namespace Session

instance : LawfulLinked (Session σ) where
  link_setLink _ _ := rfl

lemma moves_ping (variant : Variant) :
    Moves Keeps (ping variant : EStateM Error (Session (Watched σ)) _) := by
  refine .get_bind fun session => (moves_use ?_).map Response.info
  exact (Moves.writeRequest talks_used _).bind fun _ =>
    (Moves.limitReads talks_used.toListens _).bind fun _ => moves_readResponse talks_used.toListens

lemma steps_ping (variant : Variant) :
    Steps .notConnected .operation (ping variant : EStateM Error (Session (Watched σ)) _) :=
  steps_operation (moves_ping variant) (.get_bind fun _ => (refuses_use _).bind _)

lemma turnsAway_perform : TurnsAway
    (perform : Call (Watched σ) → EStateM Error (Session (Watched σ)) Outcome) Call.onLink := by
  rintro (t | _ | _ | _) _ session e ⟨⟩ h
  exact bind_of_error (attach_of_refusal t h)

lemma steps_perform (call : Call (Watched σ)) :
    Steps .notConnected call.onLink (perform call : EStateM Error (Session (Watched σ)) _) := by
  cases call with
  | connect t => exact (steps_attach t).map fun _ => Outcome.done
  | ping variant => exact (steps_ping variant).map Outcome.info
  | timedPing variant timing =>
    exact ((steps_ping (σ := σ) variant).map fun info => (info, timing.roundTrip)).map
      fun ping => Outcome.timedInfo ping.1 ping.2
  | disconnect => exact steps_release.map fun _ => Outcome.done

end Session

end Legacy

/-! ### Query sessions -/

namespace Query

/-- The call as the link sees it. -/
def Call.onLink : Call σ → Link.Call σ
  | connect transport => .connect transport
  | handshake | basicStat _ | fullStat _ => .operation
  | disconnect => .disconnect

namespace Session

instance : LawfulLinked (Session σ ι) where
  link_setLink _ _ := rfl

variable {α : Type}

lemma moves_exchange (request : Bytes) (decoder : Decoder Bytes α) :
    Moves Keeps (exchange request decoder : EStateM Error (Session (Watched δ) ι) α) :=
  .get_bind fun _ => (moves_use (used_exchange _ _)).bind fun answer => .within answer decoder

lemma refuses_exchange (request : Bytes) (decoder : Decoder Bytes α) :
    Refuses .notConnected (exchange request decoder : EStateM Error (Session (Watched δ) ι) α) :=
  .get_bind fun _ => (refuses_use _).bind _

omit [StreamTransport σ] in
lemma moves_checkSession (header : Header) :
    Moves Keeps (checkSession header : EStateM Error (Session (Watched σ) ι) Unit) := by
  refine .get_bind fun session => ?_
  split
  · exact .throw _
  · exact .pure _

/-- An operation is an exchange, a check and a result. -/
lemma steps_exchange {β : Type} (request : Session (Watched δ) ι → Bytes)
    (decoder : Decoder Bytes α) (header : α → Header) (result : α → β) :
    Steps .notConnected .operation (do
      let response ← exchange (request (← get)) decoder
      checkSession (header response)
      return result response : EStateM Error (Session (Watched δ) ι) β) := by
  refine steps_operation (.get_bind fun session => ?_) (.get_bind fun session => ?_)
  · exact (moves_exchange _ _).bind fun response =>
      (moves_checkSession _).map fun _ => result response
  · exact (refuses_exchange _ _).bind _

variable [IdSource ι]

lemma turnsAway_perform : TurnsAway
    (perform : Call (Watched δ) → EStateM Error (Session (Watched δ) ι) Outcome) Call.onLink := by
  rintro (t | _ | _ | _ | _) _ session e ⟨⟩ h
  exact bind_of_error (bind_of_error (attach_of_refusal t h))

lemma steps_perform (call : Call (Watched δ)) :
    Steps .notConnected call.onLink (perform call : EStateM Error (Session (Watched δ) ι) _) := by
  cases call with
  | connect t =>
    refine ((steps_attach t).bind fun _ session => ?_).map fun _ => Outcome.done
    exact ⟨(), drawSessionId session, rfl, rfl⟩
  | handshake =>
    exact (steps_exchange (fun session => handshakeRequest session.sessionId) readHandshake
      Handshake.toHeader Handshake.token).map Outcome.token
  | basicStat token =>
    exact (steps_exchange (fun session => basicStatRequest session.sessionId token)
      readBasicResponse BasicResponse.toHeader BasicResponse.stat).map Outcome.basicStat
  | fullStat token =>
    exact (steps_exchange (fun session => fullStatRequest session.sessionId token)
      readFullResponse FullResponse.toHeader FullResponse.stat).map Outcome.fullStat
  | disconnect => exact steps_release.map fun _ => Outcome.done

end Session

end Query

/-! ### Bedrock sessions -/

namespace Bedrock

/-- The call as the link sees it. -/
def Call.onLink : Call σ → Link.Call σ
  | connect transport => .connect transport
  | ping _ _ => .operation
  | disconnect => .disconnect

namespace Session

instance : LawfulLinked (Session σ ι) where
  link_setLink _ _ := rfl

lemma moves_ping (variant : Variant) (timing : Timing) :
    Moves Keeps (ping variant timing : EStateM Error (Session (Watched δ) ι) _) := by
  refine .get_bind fun session => (moves_use (used_exchange _ _)).bind fun answer => ?_
  refine (Moves.within answer _).bind fun pong => ?_
  dsimp only
  split
  · exact .throw _
  · exact .pure _

lemma refuses_ping (variant : Variant) (timing : Timing) :
    Refuses .notConnected (ping variant timing : EStateM Error (Session (Watched δ) ι) _) :=
  .get_bind fun _ => (refuses_use _).bind _

variable [IdSource ι]

lemma turnsAway_perform : TurnsAway
    (perform : Call (Watched δ) → EStateM Error (Session (Watched δ) ι) Outcome) Call.onLink := by
  rintro (t | _ | _) _ session e ⟨⟩ h
  exact bind_of_error (bind_of_error (attach_of_refusal t h))

lemma steps_perform (call : Call (Watched δ)) :
    Steps .notConnected call.onLink (perform call : EStateM Error (Session (Watched δ) ι) _) := by
  cases call with
  | connect t =>
    refine ((steps_attach t).bind fun _ session => ?_).map fun _ => Outcome.done
    exact ⟨(), drawGuid session, rfl, rfl⟩
  | ping variant timing =>
    exact (steps_operation (moves_ping (δ := δ) variant timing) (refuses_ping variant timing)).map
      fun status => Outcome.status status.1 status.2
  | disconnect => exact steps_release.map fun _ => Outcome.done

end Session

end Bedrock

/-! ### Remote console sessions -/

namespace Rcon

/-- The call as the link sees it. -/
def Call.onLink : Call σ → Link.Call σ
  | connect transport => .connect transport
  | authenticate _ | command _ => .operation
  | disconnect => .disconnect

/-- How a call fails without a connection: the length of a command is looked at before. -/
def Call.refusal : Call σ → Error
  | command text =>
    let length := (Utf8.encode text).length
    if length > maxCommandLength then .commandTooLong length maxCommandLength else .notConnected
  | _ => .notConnected

namespace Session

instance : LawfulLinked (Session σ ι) where
  link_setLink _ _ := rfl

variable [IdSource ι] {session : Session (Watched σ) ι} {w w' : Watched σ}

lemma used_login (config : Config) (requestId : Int32) (password : String) :
    Moves Used (login config requestId password : Decoder (Watched σ) Packet) :=
  (Moves.writeRequest talks_used _).bind fun _ =>
    moves_receiveLoginReply talks_used.toListens config

lemma used_exchange (config : Config) (requestId : Int32) (text : String) :
    Moves Used (exchange config requestId text : Decoder (Watched σ) _) := by
  refine (Moves.writeRequest talks_used _).bind fun _ => ?_
  refine (moves_receive talks_used.toListens config).bind fun first => ?_
  split
  · exact .pure _
  · refine (Moves.writeRequest talks_used _).bind fun _ => ?_
    exact (moves_collectFragments talks_used.toListens config requestId).map _

lemma steps_authenticate (password : String) :
    Steps .notConnected .operation
      (authenticate password : EStateM Error (Session (Watched σ) ι) Bool) := by
  refine steps_operation (fun session w hlink => ?_) fun session => authenticate_of_not_connected
  exact ⟨_, link_authenticate hlink, used_login ..⟩

lemma steps_command (text : String) :
    Steps (Call.refusal (.command text : Call (Watched σ))) .operation
      (command text : EStateM Error (Session (Watched σ) ι) String) := by
  have hrefusal : Call.refusal (.command text : Call (Watched σ)) =
    if maxCommandLength < (Utf8.encode text).length then
      .commandTooLong (Utf8.encode text).length maxCommandLength else .notConnected := rfl
  rw [hrefusal]
  by_cases htext : maxCommandLength < (Utf8.encode text).length
  · rw [if_pos htext]
    refine steps_operation (fun session => ?_) fun session _ => command_of_long htext
    rw [command_of_long htext]
    exact refl session
  rw [if_neg htext]
  rw [Nat.not_lt] at htext
  refine steps_operation (fun session w hlink => ?_) fun session => command_of_not_connected htext
  cases hauthenticated : session.authenticated with
  | false =>
    rw [command_of_not_authenticated htext hlink hauthenticated]
    exact ⟨w, hlink, refl w⟩
  | true => exact ⟨_, link_command ⟨hlink, hauthenticated⟩ htext, used_exchange ..⟩

omit [IdSource ι] in
lemma steps_disconnect :
    Steps .notConnected .disconnect
      (disconnect : EStateM Error (Session (Watched σ) ι) Unit) := by
  have hrelease : Steps .notConnected .disconnect
    (Linked.release : EStateM Error (Session (Watched σ) ι) Unit) := steps_release
  exact Steps.modify_bind (k := fun _ => Linked.release) hrelease fun _ => rfl

lemma turnsAway_perform : TurnsAway
    (perform : Call (Watched σ) → EStateM Error (Session (Watched σ) ι) Outcome) Call.onLink := by
  rintro (t | _ | _ | _) _ session e ⟨⟩ h
  exact bind_of_error (attach_of_refusal t h)

lemma steps_perform (call : Call (Watched σ)) :
    Steps call.refusal call.onLink (perform call : EStateM Error (Session (Watched σ) ι) _) := by
  cases call with
  | connect t => exact (steps_attach t).map fun _ => Outcome.done
  | authenticate password => exact (steps_authenticate password).map Outcome.accepted
  | command text => exact (steps_command text).map Outcome.response
  | disconnect =>
    exact steps_disconnect.map fun _ => Outcome.done

end Session

end Rcon

/-! ### All clients -/

/-- The life of a connection is the same for every client. Of all transports that are offered, only
the first is taken up. The others are turned away and nothing is done with them, so that it would
make no difference if others came in their place. The first is closed at most once, by the first
disconnect that follows, and nothing is done with it after that, even if the close failed. A
disconnect before a connect fails and leaves the client as it was, and an operation fails without a
connection, which is the first thing that it looks at, except for the length of a command. -/
theorem connections_live_once [IdSource ι] :
    (∀ host port config parse, Lifecycle Status.Session.perform Status.Call.onLink
      (fun _ => .notConnected) ({ host, port, config, parse } : Status.Session (Watched σ))) ∧
    (∀ host port config, Lifecycle Legacy.Session.perform Legacy.Call.onLink
      (fun _ => .notConnected) ({ host, port, config } : Legacy.Session (Watched σ))) ∧
    (∀ config ids, Lifecycle Query.Session.perform Query.Call.onLink
      (fun _ => .notConnected) ({ config, ids } : Query.Session (Watched δ) ι)) ∧
    (∀ config ids, Lifecycle Bedrock.Session.perform Bedrock.Call.onLink
      (fun _ => .notConnected) ({ config, ids } : Bedrock.Session (Watched δ) ι)) ∧
    (∀ config ids, Lifecycle Rcon.Session.perform Rcon.Call.onLink Rcon.Call.refusal
      ({ config, ids } : Rcon.Session (Watched σ) ι)) :=
  ⟨fun _ _ _ _ => .of_steps Status.Session.steps_perform Status.Session.turnsAway_perform rfl,
    fun _ _ _ => .of_steps Legacy.Session.steps_perform Legacy.Session.turnsAway_perform rfl,
    fun _ _ => .of_steps Query.Session.steps_perform Query.Session.turnsAway_perform rfl,
    fun _ _ => .of_steps Bedrock.Session.steps_perform Bedrock.Session.turnsAway_perform rfl,
    fun _ _ => .of_steps Rcon.Session.steps_perform Rcon.Session.turnsAway_perform rfl⟩

end GameProbe
