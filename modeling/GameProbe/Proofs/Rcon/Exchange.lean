import GameProbe.Proofs.Rcon.Console
import GameProbe.Proofs.Rcon.Operations
import Mathlib.Data.List.TakeWhile

/-!
# Exchanges with a console

What a client of the remote console gets when it talks to a server that answers in order. Whatever
earlier calls have left unread comes first. A response that is read to its end ends with the first
refusal, of whichever request.
-/

namespace GameProbe.Rcon

open Peer Carrier EStateM.Result

variable {σ : Type} [StreamTransport σ] [Carrier σ Console]

/-! ### Single packets -/

lemma limitReads_of_view (config : Config) (s : σ) :
    ∃ s', limitReads config s = .ok () s' ∧ view s' = view s := by
  obtain ⟨s', hs', hview⟩ : ∃ s', Transport.setReadTimeout config.readTimeout s = .ok () s' ∧
      view s' = view s := mapState_eq_ok_iff.mp (setReadTimeout_view _ s)
  exact ⟨s', by simp only [limitReads, liftIo, hs'], hview⟩

/-- A packet that the peer gives is read. -/
lemma readPacket_of_gives {reply : Reply} {s : σ} {c : Console}
    (h : Gives reply.bytes (view s) c) :
    ∃ s', readPacket s = .ok reply.packet s' ∧ view s' = c := by
  obtain ⟨c₁, hlength, hbody⟩ := gives_append.mp h
  obtain ⟨s₁, hfill, rfl⟩ := fill_of_gives hlength
  obtain ⟨s₂, hrun, rfl⟩ := readBytes_of_gives hbody
  have htoNat := toNat_ofNat_length reply.length_body_le
  have hmin : minPacketLength ≤ reply.body.length := reply.length_body ▸ Nat.le_add_left ..
  rw [Wire.length_uint32LE] at hfill
  refine ⟨s₂, readPacket_of_parts (by rwa [htoNat]) (by rw [htoNat]; exact reply.length_body_le)
    ?_ (by rwa [htoNat]) reply.readBody_body, rfl⟩
  rw [Wire.readUInt32LE, bind_of_ok hfill, Wire.ofLittleEndian_uint32LE, UInt32.ofNat_toNat]
  rfl

lemma readPacket_of_fault {s : σ} {e : Fault} {c : Console}
    (h : Peer.receive (view s) = .error e c) :
    ∃ s', readPacket s = .error (.io e) s' ∧ view s' = c := by
  obtain ⟨s', hfill, hview⟩ := fill_of_fault (n := 3) h
  exact ⟨s', bind_of_error (bind_of_error (bind_of_error hfill)), hview⟩

namespace Session

open Console

variable {start : Console} {commands : Nat} {backlog : List Reply} {written : Bytes} {s : σ}

/-- Waiting for a packet brings the first of the backlog, or nothing. -/
lemma receive_cases (config : Config) (h : Later start commands backlog written (view s)) :
    (∃ s', receive config s = .error (.io Fault.timedOut) s' ∧
      Later start commands backlog written (view s') ∧
      (((view s).turns.headD {}).expires = true ∨ backlog = [])) ∨
    (∃ reply rest s', backlog = reply :: rest ∧ receive config s = .ok reply.packet s' ∧
      Later start commands rest written (view s')) := by
  obtain ⟨s₁, hlimit, hview⟩ := limitReads_of_view config s
  rw [← hview] at h ⊢
  rcases h.receive_or_gives with ⟨c, hfault, hc, hwhy⟩ | ⟨reply, rest, c, rfl, hgives, hc⟩
  · obtain ⟨s', hread, rfl⟩ := readPacket_of_fault hfault
    exact .inl ⟨s', (bind_of_ok hlimit).trans hread, hc, hwhy⟩
  · obtain ⟨s', hread, rfl⟩ := readPacket_of_gives hgives
    exact .inr ⟨reply, rest, s', rfl, (bind_of_ok hlimit).trans hread, hc⟩

/-- A request reaches the server whole. -/
lemma writeRequest_packet (h : Later start commands backlog written (view s))
    (requestId type : Int32) {text : String}
    (htext : (Utf8.encode text).length ≤ maxCommandLength) :
    ∃ request c s', request.requestId = requestId ∧ request.type = type ∧
      request.payload = heard text ∧
      writeRequest (packet requestId type text) s = .ok () s' ∧ view s' = c.take request ∧
      c.turns = (view s).turns ∧
      Later start commands backlog (written ++ packet requestId type text) c := by
  obtain ⟨request, c, hid, htype, hpayload, hsend, hturns, hc⟩ :=
    h.sendAll_packet requestId type htext
  obtain ⟨s₁, hwrite, hview₁⟩ := mapState_eq_ok_iff.mp ((writeAll_view _ s).trans hsend)
  obtain ⟨s₂, hflush, hview₂⟩ : ∃ s₂, StreamTransport.flush s₁ = .ok () s₂ ∧ view s₂ = view s₁ :=
    mapState_eq_ok_iff.mp (flush_view s₁)
  have hwrite' : liftIo (writeAll (packet requestId type text)) s = .ok () s₁ := by
    simp only [liftIo, hwrite]
  refine ⟨request, c, s₂, hid, htype, hpayload, (bind_of_ok hwrite').trans ?_,
    hview₂.trans hview₁, hturns, hc⟩
  simp only [liftIo, hflush]

lemma writeRequest_command (h : Later start commands backlog written (view s)) (requestId : Int32)
    {text : String} (htext : (Utf8.encode text).length ≤ maxCommandLength) :
    ∃ s', writeRequest (packet requestId commandType text) s = .ok () s' ∧
      (view s').turns = (view s).turns ∧
      Later start (commands + 1) (backlog ++ (start.answerTo commands requestId text).replies)
        (written ++ packet requestId commandType text) (view s') := by
  obtain ⟨request, c, s', rfl, htype, hpayload, hwrite, hview, hturns, hc⟩ :=
    writeRequest_packet h requestId commandType htext
  refine ⟨s', hwrite, ?_, ?_⟩
  · rw [hview, turns_take, hturns]
  · rw [hview, answerTo, ← hpayload]
    exact hc.take_command htype

lemma writeRequest_invalid (h : Later start commands backlog written (view s))
    (requestId : Int32) :
    ∃ s', writeRequest (packet requestId invalidType "") s = .ok () s' ∧
      Later start commands (backlog ++ [refusal requestId])
        (written ++ packet requestId invalidType "") (view s') := by
  have hempty : (Utf8.encode "").length ≤ maxCommandLength := by decide
  obtain ⟨request, c, s', rfl, htype, -, hwrite, hview, -, hc⟩ :=
    writeRequest_packet h requestId invalidType hempty
  exact ⟨s', hwrite, hview ▸ hc.take_invalid htype⟩

/-! ### Responses -/

/-- What a packet adds to the response to a request. -/
def share (requestId : Int32) (reply : Reply) : Bytes :=
  if reply.requestId = requestId then reply.payload else []

/-- Whether a response can go on behind a packet. -/
def goesOn (reply : Reply) : Bool := reply.payload ≠ refusalText

lemma goesOn_refusal (requestId : Int32) : goesOn (refusal requestId) = false := by
  simp [goesOn, refusal]

omit [Carrier σ Console] in
lemma receiveFragment_of_reply {config : Config} {requestId : Int32} {reply : Reply} {s' : σ}
    (h : receive config s = .ok reply.packet s') :
    receiveFragment config requestId s =
      .ok (if goesOn reply then some (share requestId reply) else none) s' := by
  rw [receiveFragment_of_receive h]
  show EStateM.Result.ok (if reply.payload = refusalText then none
    else some (share requestId reply)) s' = _
  by_cases hstop : reply.payload = refusalText
  · rw [if_pos hstop, if_neg (by simp [goesOn, hstop])]
  · rw [if_neg hstop, if_pos (by simp [goesOn, hstop])]

/-- The packets up to the first refusal are collected, or time runs out before that. -/
lemma collectFrom_cases (config : Config) (requestId : Int32) (got : List Bytes)
    (h : Later start commands backlog written (view s)) :
    (∃ s' rest, collectFrom (receiveFragment config requestId)
        (consumes_receiveFragment config requestId) got s = .error (.io Fault.timedOut) s' ∧
      rest ⊆ backlog ∧ Later start commands rest written (view s') ∧
      (start.Steady → backlog.dropWhile goesOn = [])) ∨
    (∃ s' stop rest, collectFrom (receiveFragment config requestId)
        (consumes_receiveFragment config requestId) got s =
          .ok (got.reverse ++ (backlog.takeWhile goesOn).map (share requestId)) s' ∧
      backlog.dropWhile goesOn = stop :: rest ∧ Later start commands rest written (view s')) := by
  -- along the backlog: a packet is a further fragment, or it is a refusal and the last one read
  induction backlog generalizing got s with
  | nil =>
    rcases receive_cases config h with ⟨s', hr, hs', -⟩ | ⟨_, _, _, hb, _⟩
    · exact .inl ⟨s', [], collectFrom_of_receive_error requestId got hr, List.Subset.refl _, hs',
        fun _ => rfl⟩
    · cases hb
  | cons reply backlog ih =>
    rcases receive_cases config h with ⟨s', hr, hs', hwhy⟩ | ⟨_, _, s', hb, hr, hs'⟩
    · exact .inl ⟨s', _, collectFrom_of_receive_error requestId got hr, List.Subset.refl _, hs',
        fun hsteady => absurd (h.backlog_eq_nil hsteady hwhy) (List.cons_ne_nil _ _)⟩
    cases hb
    rw [collectFrom_eq_bind, bind_of_ok (receiveFragment_of_reply hr)]
    by_cases hgoes : goesOn reply = true
    · rw [if_pos hgoes, List.dropWhile_cons_of_pos hgoes, List.takeWhile_cons_of_pos hgoes]
      rcases ih (share requestId reply :: got) hs' with
        ⟨s'', rest, hc, hrest, hs'', hwhy⟩ | ⟨s'', stop, rest, hc, hdrop, hs''⟩
      · exact .inl ⟨s'', rest, hc, List.subset_cons_of_subset _ hrest, hs'', hwhy⟩
      · refine .inr ⟨s'', stop, rest, hc.trans ?_, hdrop, hs''⟩
        rw [List.reverse_cons, List.append_assoc, List.map_cons]
        rfl
    · rw [if_neg hgoes, List.dropWhile_cons_of_neg hgoes, List.takeWhile_cons_of_neg hgoes]
      refine .inr ⟨s', reply, backlog, ?_, rfl, hs'⟩
      rw [List.map_nil, List.append_nil]
      rfl

/-- A response is read to its end, or time runs out before that. -/
lemma receiveResponse_cases (config : Config) (requestId : Int32)
    (h : Later start commands backlog written (view s)) :
    (∃ s' rest written', receiveResponse config requestId s = .error (.io Fault.timedOut) s' ∧
      rest ⊆ backlog ++ [refusal requestId] ∧ Later start commands rest written' (view s') ∧
      (start.Steady → backlog = [])) ∨
    (∃ first rest s', backlog = first :: rest ∧ first.payload.length < fragmentThreshold ∧
      receiveResponse config requestId s = .ok (first.packet, first.payload) s' ∧
      Later start commands rest written (view s')) ∨
    (∃ first rest stop behind s', backlog = first :: rest ∧
      ¬ first.payload.length < fragmentThreshold ∧
      (rest ++ [refusal requestId]).dropWhile goesOn = stop :: behind ∧
      receiveResponse config requestId s = .ok (first.packet, first.payload ++
        ((rest ++ [refusal requestId]).takeWhile goesOn).flatMap (share requestId)) s' ∧
      Later start commands behind (written ++ packet requestId invalidType "") (view s')) := by
  rcases receive_cases config h with ⟨s₁, hr, hs₁, hwhy⟩ | ⟨first, rest, s₁, rfl, hr, hs₁⟩
  · exact .inl ⟨s₁, _, _, bind_of_error hr, List.subset_append_left _ _, hs₁,
      fun hsteady => h.backlog_eq_nil hsteady hwhy⟩
  rw [receiveResponse, bind_of_ok hr]
  by_cases hshort : first.packet.payload.length < fragmentThreshold
  · refine .inr (.inl ⟨first, rest, s₁, rfl, hshort, ?_, hs₁⟩)
    rw [if_pos hshort]
    rfl
  obtain ⟨s₂, hwrite, hs₂⟩ := writeRequest_invalid hs₁ requestId
  rw [if_neg hshort, bind_of_ok hwrite]
  rcases collectFrom_cases config requestId [] hs₂ with
    ⟨s₃, left, hc, hleft, hs₃, hwhy⟩ | ⟨s₃, stop, behind, hc, hdrop, hs₃⟩
  · refine .inl ⟨s₃, left, _, bind_of_error hc, List.subset_cons_of_subset _ hleft, hs₃, ?_⟩
    intro hsteady
    have hgoes := List.dropWhile_eq_nil_iff.mp (hwhy hsteady) (refusal requestId) (by simp)
    rw [goesOn_refusal] at hgoes
    cases hgoes
  · refine .inr (.inr ⟨first, rest, stop, behind, s₃, rfl, hshort, hdrop, ?_, hs₃⟩)
    rw [List.flatMap_def]
    exact bind_of_ok hc

/-! ### Answers to commands -/

lemma flatMap_share (requestId : Int32) (replies : List Reply) :
    replies.flatMap (share requestId) =
      (replies.filter fun reply => reply.requestId = requestId).flatMap Reply.payload :=
  flatMap_ite_nil (fun reply : Reply => reply.requestId = requestId) Reply.payload replies

lemma contents_eq {requestId : Int32} (answer : Answer requestId) :
    answer.contents = answer.first.payload ++ answer.rest.flatMap (share requestId) := by
  rw [Answer.contents, ← flatMap_share, Answer.replies, List.flatMap_cons, share,
    if_pos answer.requestId_first]

lemma goesOn_of_mem_rest {requestId : Int32} {answer : Answer requestId} :
    ∀ reply ∈ answer.rest, goesOn reply = true := by
  intro reply hreply
  simpa [goesOn] using answer.unlike_refusal reply hreply

variable {text : String}

/-- With nothing left unread, a command brings its own response, or time runs out. -/
lemma exchange_of_idle (config : Config) (requestId : Int32)
    (h : Later start commands [] written (view s))
    (htext : (Utf8.encode text).length ≤ maxCommandLength) :
    (∃ s', exchange config requestId text s = .ok
        ((start.answerTo commands requestId text).first.packet,
          (start.answerTo commands requestId text).contents) s' ∧
      Later start (commands + 1) []
        (written ++ (start.answerTo commands requestId text).requests text) (view s')) ∨
    (∃ s' rest written', exchange config requestId text s = .error (.io Fault.timedOut) s' ∧
      rest ⊆ (start.answerTo commands requestId text).replies ++ [refusal requestId] ∧
      Later start (commands + 1) rest written' (view s') ∧ ¬ start.Steady) := by
  obtain ⟨s₁, hwrite, -, hs₁⟩ := writeRequest_command h requestId htext
  rw [List.nil_append] at hs₁
  generalize start.answerTo commands requestId text = answer at hs₁
  rcases receiveResponse_cases config requestId hs₁ with
    ⟨s₂, rest, written', hr, hrest, hs₂, hwhy⟩ | ⟨first, rest, s₂, hfirst, hshort, hr, hs₂⟩ |
    ⟨first, rest, stop, behind, s₂, hfirst, hlong, hdrop, hr, hs₂⟩
  · refine .inr ⟨s₂, rest, written', (bind_of_ok hwrite).trans hr, hrest, hs₂, ?_⟩
    intro hsteady
    exact absurd (hwhy hsteady) (List.cons_ne_nil _ _)
  · obtain ⟨rfl, rfl⟩ := List.cons.inj hfirst
    have hrest := answer.rest_of_short hshort
    refine .inl ⟨s₂, (bind_of_ok hwrite).trans (hr.trans ?_), ?_⟩
    · rw [contents_eq, hrest, List.flatMap_nil, List.append_nil]
    · rw [hrest] at hs₂
      rwa [Answer.requests, if_pos hshort, List.append_nil]
  · obtain ⟨rfl, rfl⟩ := List.cons.inj hfirst
    rw [List.dropWhile_append_of_pos goesOn_of_mem_rest,
      List.dropWhile_cons_of_neg (by simp [goesOn_refusal])] at hdrop
    rw [List.takeWhile_append_of_pos goesOn_of_mem_rest,
      List.takeWhile_cons_of_neg (by simp [goesOn_refusal]), List.append_nil, ← contents_eq] at hr
    obtain ⟨rfl, rfl⟩ := List.cons.inj hdrop
    refine .inl ⟨s₂, (bind_of_ok hwrite).trans hr, ?_⟩
    rwa [Answer.requests, if_neg hlong, ← List.append_assoc]

/-- A short response comes with the first wait, if time does not run out over that. -/
lemma exchange_of_short (config : Config) (requestId : Int32)
    (h : Later start commands [] written (view s))
    (htext : (Utf8.encode text).length ≤ maxCommandLength)
    (hturn : ((view s).turns.headD {}).expires = false)
    (hshort : (start.answerTo commands requestId text).first.payload.length < fragmentThreshold) :
    ∃ s', exchange config requestId text s = .ok
      ((start.answerTo commands requestId text).first.packet,
        (start.answerTo commands requestId text).contents) s' := by
  obtain ⟨s₁, hwrite, hturns, hs₁⟩ := writeRequest_command h requestId htext
  rw [List.nil_append] at hs₁
  generalize start.answerTo commands requestId text = answer at hs₁ hshort
  rcases receive_cases config hs₁ with ⟨_, _, _, hexpires | hnil⟩ | ⟨first, rest, s', hfirst, hr, _⟩
  · rw [hturns, hturn] at hexpires
    cases hexpires
  · exact absurd hnil (List.cons_ne_nil _ _)
  · obtain ⟨rfl, rfl⟩ := List.cons.inj hfirst
    have hshort' : answer.first.packet.payload.length < fragmentThreshold := hshort
    refine ⟨s', (bind_of_ok hwrite).trans ?_⟩
    rw [receiveResponse, bind_of_ok hr, if_pos hshort', contents_eq, answer.rest_of_short hshort,
      List.flatMap_nil, List.append_nil]
    rfl

/-- With something left unread, a command is taken to be answered by the first of that. -/
lemma exchange_of_backlog (config : Config) (requestId : Int32) {stale : Reply}
    (h : Later start commands (stale :: backlog) written (view s))
    (htext : (Utf8.encode text).length ≤ maxCommandLength) :
    ∃ s' rest written', Later start (commands + 1) rest written' (view s') ∧
      rest ⊆ stale :: backlog ++ (start.answerTo commands requestId text).replies ++
        [refusal requestId] ∧
      (exchange config requestId text s = .error (.io Fault.timedOut) s' ∨
        ∃ output, exchange config requestId text s = .ok (stale.packet, output) s') := by
  obtain ⟨s₁, hwrite, -, hs₁⟩ := writeRequest_command h requestId htext
  rcases receiveResponse_cases config requestId hs₁ with
    ⟨s₂, rest, written', hr, hrest, hs₂, -⟩ | ⟨first, rest, s₂, hfirst, -, hr, hs₂⟩ |
    ⟨first, rest, stop, behind, s₂, hfirst, -, hdrop, hr, hs₂⟩
  · exact ⟨s₂, rest, written', hs₂, hrest, .inl ((bind_of_ok hwrite).trans hr)⟩
  · obtain ⟨rfl, rfl⟩ := List.cons.inj hfirst
    refine ⟨s₂, _, _, hs₂, ?_, .inr ⟨_, (bind_of_ok hwrite).trans hr⟩⟩
    exact List.subset_append_of_subset_left _ (List.subset_cons_self _ _)
  · obtain ⟨rfl, rfl⟩ := List.cons.inj hfirst
    have hsuffix : stop :: behind <:+ backlog ++
        (start.answerTo commands requestId text).replies ++ [refusal requestId] := hdrop ▸ List.dropWhile_suffix goesOn
    have hbehind := List.Subset.trans (List.subset_cons_self stop behind) hsuffix.subset
    refine ⟨s₂, behind, _, hs₂, ?_, .inr ⟨_, (bind_of_ok hwrite).trans hr⟩⟩
    exact List.subset_cons_of_subset _ hbehind

end Session

end GameProbe.Rcon
