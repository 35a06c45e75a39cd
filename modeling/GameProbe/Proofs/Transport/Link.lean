import GameProbe.Proofs.Transport.Agreement
import GameProbe.Transport.Link

/-!
# Links seen through a view

What is done over links that look the same comes out the same and leaves links that look the same,
if it does so on the transports.
-/

namespace GameProbe

open EStateM.Result

namespace Link

variable {σ σ₁ σ₂ τ : Type}

/-- The link with its transport seen through `f`. -/
def map (f : σ → τ) : Link σ → Link τ
  | unconnected => unconnected
  | connected transport => connected (f transport)
  | disconnected transport => disconnected (f transport)

/-- The link without its transport. -/
def shape (link : Link σ) : Link Unit := link.map fun _ => ()

variable {link : Link σ}

lemma shape_eq_unconnected : link.shape = .unconnected ↔ link = .unconnected := by
  cases link <;> simp [shape, map]

lemma shape_eq_connected : link.shape = .connected () ↔ ∃ s, link = .connected s := by
  cases link <;> simp [shape, map]

lemma shape_eq_disconnected : link.shape = .disconnected () ↔ ∃ s, link = .disconnected s := by
  cases link <;> simp [shape, map]

/-- How a transport is turned away that comes when a connection was made before. -/
def refusal? : Link σ → Option Error
  | unconnected => none
  | connected _ => some .alreadyConnected
  | disconnected _ => some .connectionTerminated

lemma not_connected_or (link : Link σ) :
    link.isConnected = false ∨ ∃ transport, link = connected transport := by
  cases link with
  | connected transport => exact .inr ⟨transport, rfl⟩
  | unconnected | disconnected => exact .inl rfl

/-- Links that look the same are in the same state. -/
lemma cases_of_map_eq {f₁ : σ₁ → τ} {f₂ : σ₂ → τ} {l₁ : Link σ₁} {l₂ : Link σ₂}
    (h : l₁.map f₁ = l₂.map f₂) :
    (l₁ = unconnected ∧ l₂ = unconnected) ∨
    (∃ t₁ t₂, l₁ = connected t₁ ∧ l₂ = connected t₂ ∧ f₁ t₁ = f₂ t₂) ∨
    (∃ t₁ t₂, l₁ = disconnected t₁ ∧ l₂ = disconnected t₂ ∧ f₁ t₁ = f₂ t₂) := by
  cases l₁ <;> cases l₂ <;> simp_all [map]

end Link

namespace Linked

variable {γ σ α : Type} [Linked γ σ] {client : γ} {transport : σ}

lemma attach_of_refusal {e : Error} (transport : σ) (h : (link client).refusal? = some e) :
    attach transport client = .error e client := by
  have hcheck : ensureUnconnected client = .error e client := by
    unfold ensureUnconnected
    cases hlink : link client <;> rw [hlink] at h <;> cases h <;> rfl
  exact bind_of_error hcheck

/-- What is done with the transport of a connected link shows in the link alone. -/
lemma use_of_connected (act : EStateM Error σ α) (h : link client = .connected transport) :
    use act client = (act transport).mapState fun transport =>
      setLink (.connected transport) client := by
  simp only [use, h]
  cases act transport <;> rfl

lemma use_of_not_connected (act : EStateM Error σ α) (h : (link client).isConnected = false) :
    use act client = .error .notConnected client := by
  unfold use
  split
  · rename_i hlink
    rw [hlink] at h
    cases h
  · rfl

lemma release_of_connected [Transport σ] (h : link client = .connected transport) :
    release client = (liftIo Transport.close transport).mapState fun transport =>
      setLink (.disconnected transport) client := by
  simp only [release, h]
  cases liftIo Transport.close transport <;> rfl

lemma release_of_not_connected [Transport σ] (h : (link client).isConnected = false) :
    release client = .error .notConnected client := by
  unfold release
  split
  · rename_i hlink
    rw [hlink] at h
    cases h
  · rfl

/-! ### Views -/

variable {σ₁ σ₂ τ γ₁ γ₂ δ : Type} [Linked γ₁ σ₁] [Linked γ₂ σ₂] [Linked δ τ]

/-- A view of clients that shows their links through `f`, and nothing else of their transports. -/
structure Respects (f : σ → τ) (F : γ → δ) : Prop where
  link : ∀ client, link (F client) = (link client).map f
  setLink : ∀ l client, F (setLink l client) = setLink (l.map f) (F client)

variable {f₁ : σ₁ → τ} {f₂ : σ₂ → τ} {F₁ : γ₁ → δ} {F₂ : γ₂ → δ}

lemma Respects.link_eq (h₁ : Respects f₁ F₁) (h₂ : Respects f₂ F₂) {c₁ : γ₁} {c₂ : γ₂}
    (h : F₁ c₁ = F₂ c₂) : (Linked.link c₁).map f₁ = (Linked.link c₂).map f₂ := by
  rw [← h₁.link, ← h₂.link, h]

lemma Respects.mapState_connected {f : σ → τ} {F : γ → δ} (h : Respects f F) (client : γ)
    (r : EStateM.Result Error σ α) :
    (r.mapState fun t => Linked.setLink (.connected t) client).mapState F =
      (r.mapState f).mapState fun p => Linked.setLink (.connected p) (F client) := by
  simp only [mapState_mapState, h.setLink]
  rfl

lemma Respects.mapState_disconnected {f : σ → τ} {F : γ → δ} (h : Respects f F) (client : γ)
    (r : EStateM.Result Error σ α) :
    (r.mapState fun t => Linked.setLink (.disconnected t) client).mapState F =
      (r.mapState f).mapState fun p => Linked.setLink (.disconnected p) (F client) := by
  simp only [mapState_mapState, h.setLink]
  rfl

lemma agree_ensureUnconnected (h₁ : Respects f₁ F₁) (h₂ : Respects f₂ F₂) :
    Agree F₁ F₂ (ensureUnconnected : EStateM Error γ₁ Unit)
      (ensureUnconnected : EStateM Error γ₂ Unit) := by
  intro c₁ c₂ h
  unfold ensureUnconnected
  rcases Link.cases_of_map_eq (h₁.link_eq h₂ h) with
    ⟨hl₁, hl₂⟩ | ⟨t₁, t₂, hl₁, hl₂, -⟩ | ⟨t₁, t₂, hl₁, hl₂, -⟩ <;>
  simp [hl₁, hl₂, mapState, h]

lemma agree_attach (h₁ : Respects f₁ F₁) (h₂ : Respects f₂ F₂) {t₁ : σ₁} {t₂ : σ₂}
    (ht : f₁ t₁ = f₂ t₂) :
    Agree F₁ F₂ (attach t₁ : EStateM Error γ₁ Unit) (attach t₂ : EStateM Error γ₂ Unit) := by
  refine (agree_ensureUnconnected h₁ h₂).bind fun _ => .modify fun c₁ c₂ h => ?_
  rw [h₁.setLink, h₂.setLink, h, Link.map, Link.map, ht]

lemma agree_ensureConnected (h₁ : Respects f₁ F₁) (h₂ : Respects f₂ F₂) :
    Agree F₁ F₂ (ensureConnected : EStateM Error γ₁ Unit)
      (ensureConnected : EStateM Error γ₂ Unit) := by
  intro c₁ c₂ h
  unfold ensureConnected isConnected
  rcases Link.cases_of_map_eq (h₁.link_eq h₂ h) with
    ⟨hl₁, hl₂⟩ | ⟨t₁, t₂, hl₁, hl₂, -⟩ | ⟨t₁, t₂, hl₁, hl₂, -⟩ <;>
  simp [hl₁, hl₂, mapState, Link.isConnected, h]

lemma agree_use (h₁ : Respects f₁ F₁) (h₂ : Respects f₂ F₂) {act₁ : EStateM Error σ₁ α}
    {act₂ : EStateM Error σ₂ α} (hact : Agree f₁ f₂ act₁ act₂) :
    Agree F₁ F₂ (use act₁ : EStateM Error γ₁ α) (use act₂ : EStateM Error γ₂ α) := by
  intro c₁ c₂ h
  rcases Link.cases_of_map_eq (h₁.link_eq h₂ h) with
    ⟨hl₁, hl₂⟩ | ⟨t₁, t₂, hl₁, hl₂, ht⟩ | ⟨t₁, t₂, hl₁, hl₂, -⟩
  · simp [use, hl₁, hl₂, mapState, h]
  · rw [use_of_connected act₁ hl₁, use_of_connected act₂ hl₂, h₁.mapState_connected,
      h₂.mapState_connected, hact t₁ t₂ ht, h]
  · simp [use, hl₁, hl₂, mapState, h]

lemma agree_release [Transport σ₁] [Transport σ₂] (h₁ : Respects f₁ F₁) (h₂ : Respects f₂ F₂)
    (hclose : Agree f₁ f₂ (Transport.close : EStateM IoError σ₁ Unit) Transport.close) :
    Agree F₁ F₂ (release : EStateM Error γ₁ Unit) (release : EStateM Error γ₂ Unit) := by
  intro c₁ c₂ h
  rcases Link.cases_of_map_eq (h₁.link_eq h₂ h) with
    ⟨hl₁, hl₂⟩ | ⟨t₁, t₂, hl₁, hl₂, ht⟩ | ⟨t₁, t₂, hl₁, hl₂, -⟩
  · simp [release, hl₁, hl₂, mapState, h]
  · rw [release_of_connected hl₁, release_of_connected hl₂, h₁.mapState_disconnected,
      h₂.mapState_disconnected, hclose.liftIo t₁ t₂ ht, h]
  · simp [release, hl₁, hl₂, mapState, h]

end Linked

end GameProbe
