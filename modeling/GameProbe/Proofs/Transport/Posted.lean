import GameProbe.Proofs.Transport.Moves

/-!
# Posted datagrams

A datagram transport together with the letters that went through it: each request, and what came of
it. A client cannot tell it from the transport alone, so what the letters of any such transport show
is what a client sends.
-/

namespace GameProbe

open EStateM.Result

/-- A request, and the answer to it if one came. -/
structure Letter where
  request : Bytes
  answer : Except IoError Bytes

/-- A transport, and all the letters that went through it, in order. -/
structure Posted (σ : Type) where
  transport : σ
  letters : List Letter := []

namespace Posted

variable {σ α : Type}

/-- Something is done with the transport that sends no letter. -/
def quietly (m : EStateM IoError σ α) : EStateM IoError (Posted σ) α :=
  fun p => (m p.transport).mapState fun transport => { p with transport }

/-- A letter is sent, whether an answer comes or not. -/
def post [DatagramTransport σ] (request : Bytes) : EStateM IoError (Posted σ) Bytes :=
  fun p =>
    (DatagramTransport.exchange request p.transport).mapState fun transport =>
      { transport
        letters := p.letters ++
          [⟨request, (DatagramTransport.exchange request p.transport).toExcept⟩] }

instance [Transport σ] : Transport (Posted σ) where
  setReadTimeout timeout := quietly (Transport.setReadTimeout timeout)
  close := quietly Transport.close

instance [DatagramTransport σ] : DatagramTransport (Posted σ) where
  exchange := post

@[simp] lemma letters_quietly (m : EStateM IoError σ α) (p : Posted σ) :
    (quietly m p).state.letters = p.letters := by
  rw [quietly, state_mapState]

@[simp] lemma letters_post [DatagramTransport σ] (request : Bytes) (p : Posted σ) :
    (post request p).state.letters = p.letters ++ [⟨request, (post request p).toExcept⟩] := by
  rw [post, state_mapState, toExcept_mapState]

/-- What comes of asking once: no letter is sent, or just one, and without an answer to it there is
no result. -/
inductive Asked (request : Bytes) (yields : Bytes → α → Prop) (p : Posted σ) :
    Except Error α → Posted σ → Prop
  | unsent {e : Error} {p' : Posted σ} : p'.letters = p.letters →
    Asked request yields p (.error e) p'
  | failed {e : Error} {answer : Except IoError Bytes} {p' : Posted σ} :
    p'.letters = p.letters ++ [⟨request, answer⟩] → Asked request yields p (.error e) p'
  | answered {a : α} {datagram : Bytes} {p' : Posted σ} :
    p'.letters = p.letters ++ [⟨request, .ok datagram⟩] → yields datagram a →
    Asked request yields p (.ok a) p'

/-- At most one letter was sent. -/
lemma Asked.letters {request : Bytes} {yields : Bytes → α → Prop} {p p' : Posted σ}
    {result : Except Error α} (h : Asked request yields p result p') :
    ∃ sent, p'.letters = p.letters ++ sent ∧ (sent.map Letter.request).Sublist [request] := by
  cases h with
  | unsent h => exact ⟨[], by rw [h, List.append_nil], List.nil_sublist _⟩
  | failed h => exact ⟨_, h, List.Sublist.refl _⟩
  | answered h => exact ⟨_, h, List.Sublist.refl _⟩

lemma letters_limitReads [DatagramTransport σ] (config : Config) (p : Posted σ) :
    (limitReads config p).state.letters = p.letters := by
  rw [limitReads, state_liftIo]
  exact letters_quietly _ p

/-- A datagram is sent once the time for the answer is limited. -/
lemma asked_exchange [DatagramTransport σ] (config : Config) (request : Bytes) (p : Posted σ) :
    Asked request (· = ·) p
      ((do limitReads config; liftIo (DatagramTransport.exchange request) :
        EStateM Error (Posted σ) Bytes) p).toExcept
      ((do limitReads config; liftIo (DatagramTransport.exchange request) :
        EStateM Error (Posted σ) Bytes) p).state := by
  have hlimit := letters_limitReads config p
  cases h : limitReads config p with
  | error e p₁ =>
    rw [h] at hlimit
    rw [bind_of_error h]
    exact .unsent hlimit
  | ok _ p₁ =>
    rw [h] at hlimit
    rw [bind_of_ok h]
    have hpost : (DatagramTransport.exchange request p₁).state.letters = p₁.letters ++
      [⟨request, (DatagramTransport.exchange request p₁).toExcept⟩] := letters_post request p₁
    rw [show p₁.letters = p.letters from hlimit] at hpost
    unfold liftIo
    split <;> rename_i hexchange <;> rw [hexchange] at hpost
    · exact .answered hpost rfl
    · exact .failed hpost

end Posted

end GameProbe
