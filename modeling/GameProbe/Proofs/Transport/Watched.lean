import GameProbe.Proofs.Transport.Moves

/-!
# Watched transports

A transport together with a record of all that is done with it. A client cannot tell it from the
transport alone, so what the record of any watched transport shows is what a client does.
-/

namespace GameProbe

open EStateM.Result

/-- Something done with a transport. -/
inductive Act
  | limit (timeout : Timeout)
  | read (most : Nat)
  /-- Bytes were offered, and so many of them were taken. -/
  | write (offered : Bytes) (taken : Nat)
  | flush
  | exchange (request : Bytes)
  | close

/-- A transport, and all that was done with it, in order. -/
structure Watched (σ : Type) where
  transport : σ
  acts : List Act := []

namespace Watched

variable {σ α : Type}

/-- Do something with the transport, and note it. -/
def note (act : Option α → Act) (m : EStateM IoError σ α) : EStateM IoError (Watched σ) α :=
  fun watched => (m watched.transport).mapState fun transport =>
    { transport, acts := watched.acts ++ [act (m watched.transport).value?] }

variable {act : Option α → Act} {m : EStateM IoError σ α} {w w' : Watched σ} {a : α} {e : IoError}

lemma acts_note (act : Option α → Act) (m : EStateM IoError σ α) (w : Watched σ) :
    (note act m w).state.acts = w.acts ++ [act (m w.transport).value?] := by
  rw [note, state_mapState]

lemma note_ok (h : note act m w = .ok a w') :
    m w.transport = .ok a w'.transport ∧ w'.acts = w.acts ++ [act (some a)] := by
  obtain ⟨t, ht, rfl⟩ := mapState_eq_ok_iff.mp h
  exact ⟨ht, by rw [ht, value?_ok]⟩

lemma note_error (h : note act m w = .error e w') :
    m w.transport = .error e w'.transport ∧ w'.acts = w.acts ++ [act none] := by
  obtain ⟨t, ht, rfl⟩ := mapState_eq_error_iff.mp h
  exact ⟨ht, by rw [ht, value?_error]⟩

instance [Transport σ] : Transport (Watched σ) where
  setReadTimeout timeout := note (fun _ => .limit timeout) (Transport.setReadTimeout timeout)
  close := note (fun _ => .close) Transport.close

instance [DatagramTransport σ] : DatagramTransport (Watched σ) where
  exchange request := note (fun _ => .exchange request) (DatagramTransport.exchange request)

instance [StreamTransport σ] : StreamTransport (Watched σ) where
  read n := note (fun _ => .read n) (ByteSource.read n)
  write bytes := note (fun taken => .write bytes (taken.getD 0)) (StreamTransport.write bytes)
  flush := note (fun _ => .flush) StreamTransport.flush
  pending w := ByteSource.pending w.transport
  interruptions w := StreamTransport.interruptions w.transport
  length_le_of_read h := ByteSource.length_le_of_read (note_ok h).1
  pending_of_read h := ByteSource.pending_of_read (note_ok h).1
  pending_of_failure h := ByteSource.pending_of_failure (note_error h).1
  interruptions_of_failure h := StreamTransport.interruptions_of_failure (note_error h).1
  pending_of_setReadTimeout h := StreamTransport.pending_of_setReadTimeout (note_ok h).1

/-! ### Use without an end -/

/-- More was done with the transport, and it was not closed. -/
def Used (w w' : Watched σ) : Prop := ∃ acts, w'.acts = w.acts ++ acts ∧ Act.close ∉ acts

instance : IsPreorder (Watched σ) Used where
  refl w := ⟨[], (List.append_nil _).symm, List.not_mem_nil⟩
  trans := by
    rintro w w₁ w₂ ⟨acts, h, hclose⟩ ⟨acts₁, h₁, hclose₁⟩
    refine ⟨acts ++ acts₁, ?_, ?_⟩
    · rw [h₁, h, List.append_assoc]
    · rw [List.mem_append]
      exact not_or_intro hclose hclose₁

lemma used_note (hact : ∀ a, act a ≠ .close) : Moves Used (note act m) := by
  intro w
  refine ⟨[act (m w.transport).value?], acts_note act m w, ?_⟩
  rw [List.mem_singleton]
  exact (hact _).symm

lemma talks_used [StreamTransport σ] : Talks (Used : Watched σ → Watched σ → Prop) where
  read _ := used_note fun _ => nofun
  setReadTimeout _ := used_note fun _ => nofun
  write _ := used_note fun _ => nofun
  flush := used_note fun _ => nofun

lemma used_exchange [DatagramTransport σ] (config : Config) (request : Bytes) :
    Moves Used (do
      limitReads config
      liftIo (DatagramTransport.exchange request) : EStateM Error (Watched σ) Bytes) := by
  have hlimit : Moves Used (Transport.setReadTimeout config.readTimeout :
    EStateM IoError (Watched σ) Unit) := used_note fun _ => nofun
  have hexchange : Moves Used (DatagramTransport.exchange request :
    EStateM IoError (Watched σ) Bytes) := used_note fun _ => nofun
  exact hlimit.liftIo.bind fun _ => hexchange.liftIo

/-- A close is noted as one, whether it succeeds or not. -/
lemma acts_close [Transport σ] (w : Watched σ) :
    (liftIo Transport.close w).state.acts = w.acts ++ [.close] := by
  rw [state_liftIo]
  exact acts_note _ _ w

end Watched

/-! ### What is written -/

/-- The bytes that an act gave to the other side. -/
def Act.written : Act → Bytes
  | .write offered taken => offered.take taken
  | _ => []

namespace Watched

variable {σ : Type} {w w' : Watched σ}

/-- All the bytes that were given to the other side. -/
def written (w : Watched σ) : Bytes := w.acts.flatMap Act.written

lemma written_of_acts {act : Act} (h : w'.acts = w.acts ++ [act]) :
    w'.written = w.written ++ act.written := by
  rw [written, h, List.flatMap_append, List.flatMap_singleton]
  rfl

/-- Nothing more was given to the other side. -/
def Silent (w w' : Watched σ) : Prop := w'.written = w.written

instance : IsPreorder (Watched σ) Silent where
  refl _ := rfl
  trans _ _ _ h h' := h'.trans h

/-- An operation that notes acts without bytes is silent. -/
lemma silent_note {α : Type} {act : Option α → Act} {m : EStateM IoError σ α}
    (hact : ∀ a, (act a).written = []) : Moves Silent (note act m) := by
  intro w
  rw [Silent, written_of_acts (acts_note act m w), hact, List.append_nil]

variable [StreamTransport σ]

lemma listens_silent : Listens (Silent : Watched σ → Watched σ → Prop) where
  read _ := silent_note fun _ => rfl
  setReadTimeout _ := silent_note fun _ => rfl

lemma silent_flush : Moves Silent (StreamTransport.flush : EStateM IoError (Watched σ) Unit) :=
  silent_note fun _ => rfl

/-- What is written of a request is a beginning of it, and all of it if the writing succeeds. -/
lemma written_writeAll (bytes : Bytes) (w : Watched σ) :
    ∃ taken, taken <+: bytes ∧ (writeAll bytes w).state.written = w.written ++ taken ∧
      ∀ w', writeAll bytes w = .ok () w' → taken = bytes := by
  fun_induction writeAll bytes w with
  | case1 w => exact ⟨[], List.nil_prefix, (List.append_nil _).symm, fun _ _ => rfl⟩
  | case2 w b bs w₁ h₁ =>
    refine ⟨[], List.nil_prefix, written_of_acts (note_ok h₁).2, ?_⟩
    intro w' h
    cases h
  | case3 w b bs taken w₁ h₁ ih =>
    obtain ⟨p, hp, hwritten, hall⟩ := ih
    have hsplit := List.take_append_drop (taken + 1) (b :: bs)
    refine ⟨(b :: bs).take (taken + 1) ++ p, ?_, ?_, ?_⟩
    · obtain ⟨rest, hrest⟩ := hp
      exact ⟨rest, by rw [List.append_assoc, hrest]; exact hsplit⟩
    · rw [hwritten, written_of_acts (note_ok h₁).2, List.append_assoc]
      rfl
    · intro w' h
      rw [hall w' h]
      exact hsplit
  | case4 w b bs e w₁ h₁ hi ih =>
    obtain ⟨p, hp, hwritten, hall⟩ := ih
    refine ⟨p, hp, ?_, hall⟩
    rw [hwritten, written_of_acts (note_error h₁).2]
    exact congrArg (· ++ p) (List.append_nil _)
  | case5 w b bs e w₁ h₁ hi =>
    refine ⟨[], List.nil_prefix, written_of_acts (note_error h₁).2, ?_⟩
    intro w' h
    cases h

lemma written_writeRequest (request : Bytes) (w : Watched σ) :
    ∃ taken, taken <+: request ∧
      (writeRequest request w).state.written = w.written ++ taken ∧
      ∀ w', writeRequest request w = .ok () w' → taken = request := by
  obtain ⟨taken, hprefix, hwritten, hall⟩ := written_writeAll request w
  have hlift := (congrArg written (state_liftIo (writeAll request) w)).trans hwritten
  refine ⟨taken, hprefix, ?_, ?_⟩
  · cases h : liftIo (writeAll request) w with
    | ok _ w₁ =>
      rw [h] at hlift
      rw [writeRequest, bind_of_ok h, ← hlift]
      exact silent_flush.liftIo w₁
    | error e w₁ =>
      rw [h] at hlift
      rw [writeRequest, bind_of_error h]
      exact hlift
  · intro w' h
    obtain ⟨_, w₁, h₁, -⟩ := bind_eq_ok_iff.mp h
    unfold liftIo at h₁
    split at h₁ <;> cases h₁
    exact hall _ ‹_›

/-- The operation writes a beginning of the bytes. -/
def Writes {α : Type} (bytes : Bytes) (m : EStateM Error (Watched σ) α) : Prop :=
  ∀ w, ∃ taken, taken <+: bytes ∧ (m w).state.written = w.written ++ taken

namespace Writes

variable {α β : Type} {bytes later : Bytes} {m : EStateM Error (Watched σ) α}
  {k : α → EStateM Error (Watched σ) β}

omit [StreamTransport σ] in
lemma of_silent (hm : Moves Silent m) : Writes bytes m :=
  fun w => ⟨[], List.nil_prefix, (hm w).trans (List.append_nil _).symm⟩

omit [StreamTransport σ] in
lemma silent_bind (hm : Moves Silent m) (hk : ∀ a, Writes bytes (k a)) :
    Writes bytes (m >>= k) := by
  intro w
  cases h : m w with
  | ok a w₁ =>
    obtain ⟨taken, hprefix, hwritten⟩ := hk a w₁
    refine ⟨taken, hprefix, ?_⟩
    rw [bind_of_ok h, hwritten, hm.of_ok h]
  | error e w₁ =>
    refine ⟨[], List.nil_prefix, ?_⟩
    rw [bind_of_error h, List.append_nil]
    exact hm.of_error h

/-- What follows a request is written only when that has been written whole. -/
lemma request_bind {request : Bytes} {k : Unit → EStateM Error (Watched σ) β}
    (hk : Writes later (k ())) : Writes (request ++ later) (writeRequest request >>= k) := by
  intro w
  obtain ⟨taken, hprefix, hwritten, hall⟩ := written_writeRequest request w
  cases h : writeRequest request w with
  | ok _ w₁ =>
    obtain ⟨taken', hprefix', hwritten'⟩ := hk w₁
    rw [h, hall w₁ h] at hwritten
    refine ⟨request ++ taken', (List.prefix_append_right_inj request).mpr hprefix', ?_⟩
    rw [bind_of_ok h, hwritten', ← List.append_assoc]
    exact congrArg (· ++ taken') hwritten
  | error e w₁ =>
    rw [h] at hwritten
    refine ⟨taken, hprefix.trans (List.prefix_append request later), ?_⟩
    rw [bind_of_error h]
    exact hwritten

end Writes

end Watched

end GameProbe
