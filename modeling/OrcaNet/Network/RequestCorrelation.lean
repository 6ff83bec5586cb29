import OrcaNet.Network.Requests

/-! # Correlation of requests

    The network of nodes with libp2p's request-response protocol refines remote
    calls that are served at most once.  A response channel belongs to one call
    for good, so what a handler sends into a channel is the result of that call,
    and the call's id leads back to its caller. -/

namespace OrcaNet

open Transition

namespace Requests

/-! ## Section 1: Refinement of remote calls -/

/-- The remote calls, with the result `none` for a handler that panicked. -/
abbrev Abstract : Type :=
  RemoteCall.State CallId PeerId (OrcaNetRequest F64) (Option (OrcaNetResponse F64))

def Call.abstract (c : Call) : RemoteCall.Call PeerId (OrcaNetRequest F64) :=
  ⟨c.caller, c.peer, c.request⟩

def Call.ticket (c : Call) :
    RemoteCall.Ticket CallId PeerId (OrcaNetRequest F64) (PeerId × Sender) :=
  ⟨c.id, c.abstract, (c.caller, c.sender)⟩

/-- A handled request in the log of the remote calls. -/
def Handled.entry (h : Handled) :
    Option CallId × RemoteCall.Call PeerId (OrcaNetRequest F64) ×
      Option (OrcaNetResponse F64) :=
  (h.id, ⟨h.from_peer, h.peer, h.request⟩, h.response)

/-- What a node holds agrees with the stages of the calls. -/
structure NodeInv (t : Abstract) (channels : PeerId × ResponseChannel → Option CallId)
    (calls : List Call) (oneshots : List (PeerId × Sender)) (peer : PeerId)
    (n : NodeLoops.State) : Prop where
  sending : ∀ request from_peer channel,
    n.network_phase = .send_request_event request from_peer channel →
      ∃ id, channels (peer, channel) = some id ∧ t.stage id = .serving ⟨from_peer, peer, request⟩
  handling : ∀ request from_peer channel,
    n.handler_phase.event = some (.Request request from_peer channel) →
      ∃ id, channels (peer, channel) = some id ∧ t.stage id = .serving ⟨from_peer, peer, request⟩
  /-- The two loops have different requests in hand. -/
  apart : ∀ request from_peer channel request' from_peer' channel',
    n.network_phase = .send_request_event request from_peer channel →
      n.handler_phase.event = some (.Request request' from_peer' channel') → channel ≠ channel'
  responds : ∀ p, responding n.handler_phase = some p →
    ∃ id c, channels (peer, p.2) = some id ∧ t.stage id = .served c (some p.1)
  registers : ∀ request_id sender, n.network.pending_request request_id = some sender →
    ∃ c ∈ calls, c.id = (peer, request_id) ∧ c.sender = sender
  awaits : ∀ sender, HoldsElse n sender →
    (peer, sender) ∈ oneshots ∧ ∀ c ∈ calls, c.caller = peer → c.sender ≠ sender

/-- What libp2p carries agrees with the stages of the calls. -/
structure WireInv (t : Abstract) (requests : CallId → Option (PeerId × OrcaNetRequest F64))
    (channels : PeerId × ResponseChannel → Option CallId)
    (responses : CallId → Option (OrcaNetResponse F64)) : Prop where
  sent : ∀ id peer request, requests id = some (peer, request) →
    t.stage id = .sent ⟨id.1, peer, request⟩
  assigned : ∀ p id, channels p = some id →
    (∃ c, t.stage id = .serving c) ∨ ∃ c result, t.stage id = .served c result
  injective : ∀ p q id, channels p = some id → channels q = some id → p = q
  carried : ∀ id response, responses id = some response →
    ∃ c, t.stage id = .served c (some response)

structure Refines (s : State) (t : Abstract) : Prop where
  nodes : ∀ peer, NodeInv t s.channels s.calls s.oneshots peer (s.node peer)
  wire : WireInv t s.requests s.channels s.responses
  ledger : RemoteCall.Ledger StreamRequests.response_of t (s.calls.map Call.ticket) s.answers
    s.oneshots
  handled : RemoteCall.LogOf Handled.entry s.handled t

section frames

variable {t t' : Abstract} {id : CallId}
  {channels channels' : PeerId × ResponseChannel → Option CallId} {calls calls' : List Call} {oneshots oneshots' : List (PeerId × Sender)} {peer : PeerId}
  {n : NodeLoops.State}

/-- A node that has no part in the step. -/
theorem NodeInv.frame (h : NodeInv t channels calls oneshots peer n)
    (hadv : RemoteCall.Advances t t' id) (hpeer : ∀ c, t.stage id = .serving c → c.peer ≠ peer)
    (hchannels : ∀ channel, channels' (peer, channel) = channels (peer, channel))
    (hcalls : calls ⊆ calls') (hnew : ∀ c ∈ calls', c.caller = peer → c ∈ calls)
    (honeshots : oneshots ⊆ oneshots') : NodeInv t' channels' calls' oneshots' peer n := by
  have hserving : ∀ {i request from_peer}, t.stage i = .serving ⟨from_peer, peer, request⟩ →
      t'.stage i = .serving ⟨from_peer, peer, request⟩ := by
    intro i request from_peer hi
    rw [hadv.other i ?_, hi]
    rintro rfl
    exact hpeer _ hi rfl
  refine ⟨fun request from_peer channel hph => ?_, fun request from_peer channel hph => ?_,
    h.apart, fun p hp => ?_, fun request_id sender hs => ?_, fun sender hs => ?_⟩
  · obtain ⟨i, hi, hstage⟩ := h.sending request from_peer channel hph
    exact ⟨i, (hchannels channel).trans hi, hserving hstage⟩
  · obtain ⟨i, hi, hstage⟩ := h.handling request from_peer channel hph
    exact ⟨i, (hchannels channel).trans hi, hserving hstage⟩
  · obtain ⟨i, c, hi, hstage⟩ := h.responds p hp
    exact ⟨i, c, (hchannels _).trans hi, hadv.served hstage⟩
  · obtain ⟨c, hc, hspec⟩ := h.registers request_id sender hs
    exact ⟨c, hcalls hc, hspec⟩
  · obtain ⟨hmade, hother⟩ := h.awaits sender hs
    exact ⟨honeshots hmade, fun c hc hcaller => hother c (hnew c hc hcaller) hcaller⟩

/-- What belongs to other calls is carried on. -/
theorem WireInv.advance {requests requests' : CallId → Option (PeerId × OrcaNetRequest F64)}
    {responses : CallId → Option (OrcaNetResponse F64)} (h : WireInv t requests channels responses)
    (hadv : RemoteCall.Advances t t' id) (hrequests : ∀ i, i ≠ id → requests' i = requests i)
    (hid : ∀ peer request, requests' id = some (peer, request) →
      t'.stage id = .sent ⟨id.1, peer, request⟩)
    (hchannel : ∀ p, channels p = some id →
      (∃ c, t'.stage id = .serving c) ∨ ∃ c result, t'.stage id = .served c result) :
    WireInv t' requests' channels responses where
  sent i peer request hi := by
    by_cases heq : i = id
    · subst heq
      exact hid peer request hi
    · rw [hadv.other i heq]
      exact h.sent i peer request (hrequests i heq ▸ hi)
  assigned p i hi := by
    by_cases heq : i = id
    · subst heq
      exact hchannel p hi
    · rw [hadv.other i heq]
      exact h.assigned p i hi
  injective := h.injective
  carried i response hi := by
    obtain ⟨c, hserved⟩ := h.carried i response hi
    exact ⟨c, hadv.served hserved⟩

/-- A call that has no channel gets one. -/
theorem WireInv.assign {requests : CallId → Option (PeerId × OrcaNetRequest F64)}
    {responses : CallId → Option (OrcaNetResponse F64)} (h : WireInv t requests channels responses)
    {c : RemoteCall.Call PeerId (OrcaNetRequest F64)} (hserving : t.stage id = .serving c)
    (hnone : ∀ p, channels p ≠ some id) (p : PeerId × ResponseChannel) :
    WireInv t requests (Function.update channels p (some id)) responses where
  sent := h.sent
  assigned q i hi := by
    by_cases hq : q = p
    · subst hq
      rw [Function.update_self] at hi
      cases hi
      exact Or.inl ⟨c, hserving⟩
    · rw [Function.update_of_ne hq] at hi
      exact h.assigned q i hi
  injective q r i hi hr := by
    by_cases hq : q = p <;> by_cases hr' : r = p
    · rw [hq, hr']
    · subst hq
      rw [Function.update_self] at hi
      rw [Function.update_of_ne hr'] at hr
      cases hi
      exact absurd hr (hnone r)
    · subst hr'
      rw [Function.update_self] at hr
      rw [Function.update_of_ne hq] at hi
      cases hr
      exact absurd hi (hnone q)
    · rw [Function.update_of_ne hq] at hi
      rw [Function.update_of_ne hr'] at hr
      exact h.injective q r i hi hr
  carried := h.carried

end frames

/-! ## Section 2: The steps -/

section steps

variable {s : State} {t : Abstract} {n' : NodeLoops.State} {l : Label}

theorem nodes_update {node : PeerId → NodeLoops.State} {peer : PeerId}
    {channels : PeerId × ResponseChannel → Option CallId} {calls : List Call}
    {oneshots : List (PeerId × Sender)} (hself : NodeInv t channels calls oneshots peer n')
    (hother : ∀ p, p ≠ peer → NodeInv t channels calls oneshots p (node p)) (p : PeerId) :
    NodeInv t channels calls oneshots p (Function.update node peer n' p) :=
  (Function.forall_update_iff node (NodeInv t channels calls oneshots)).mpr ⟨hself, hother⟩ p

/-- The caller found under an id is the one whose call has the id. -/
theorem Refines.id_of_registers (hrel : Refines s t) {c : Call} (hc : c ∈ s.calls)
    {request_id : OutboundRequestId}
    (h : (s.node c.caller).network.pending_request request_id = some c.sender) :
    c.id = (c.caller, request_id) := by
  obtain ⟨c', hc', hid, hsender⟩ := (hrel.nodes c.caller).registers request_id _ h
  have hcaller : c'.caller = c.caller := congrArg Prod.fst hid
  have heq := hrel.ledger.eq_of_channel (List.mem_map_of_mem (f := Call.ticket) hc')
    (List.mem_map_of_mem (f := Call.ticket) hc) (by simp [Call.ticket, hcaller, hsender])
  exact (congrArg RemoteCall.Ticket.id heq).symm.trans hid

theorem refines_quiet (hrel : Refines s t) (hquiet : Quiet (s.node l.peer) l n')
    (hnew : ∀ sender, StreamRequests.new_oneshot l.step = some sender →
      (l.peer, sender) ∉ s.oneshots) : Refines (record s l n') t := by
  have hrecord : record s l n' = base s l n' := by simp only [record, hquiet.act]
  have hold := hrel.nodes l.peer
  have hchannel : ∀ sender, HoldsElse (s.node l.peer) sender ∨
      StreamRequests.new_oneshot l.step = some sender →
      (l.peer, sender) ∈ (base s l n').oneshots ∧
        ∀ c ∈ s.calls, c.caller = l.peer → c.sender ≠ sender := by
    rintro sender (hholds | hsender)
    · obtain ⟨hmade, hother⟩ := hold.awaits sender hholds
      exact ⟨List.mem_append_right _ hmade, hother⟩
    · refine ⟨by simp [base, hsender], fun c hc hcaller heq => hnew sender hsender ?_⟩
      have hmade := hrel.ledger.made _ (List.mem_map_of_mem (f := Call.ticket) hc)
      simpa [Call.ticket, hcaller, heq] using hmade
  have hself : NodeInv t s.channels s.calls (base s l n').oneshots l.peer n' := by
    refine ⟨fun _ _ _ h => hold.sending _ _ _ (hquiet.sending _ _ _ h),
      fun _ _ _ h => hold.handling _ _ _ (hquiet.handling _ _ _ h),
      fun _ _ _ _ _ _ h h' => hold.apart _ _ _ _ _ _ (hquiet.sending _ _ _ h)
        (hquiet.handling _ _ _ h'),
      fun p h => hold.responds p (hquiet.responds p h),
      fun request_id sender h => hold.registers request_id sender (hquiet.pending ▸ h),
      fun sender h => hchannel sender ?_⟩
    exact h.elim (hquiet.holds_network sender) (hquiet.holds_handler sender)
  rw [hrecord]
  refine ⟨nodes_update hself fun p hp => ?_, hrel.wire, ?_, hrel.handled⟩
  · have hpeer := hrel.nodes p
    exact ⟨hpeer.sending, hpeer.handling, hpeer.apart, hpeer.responds, hpeer.registers,
      fun sender h =>
        ⟨List.mem_append_right _ (hpeer.awaits sender h).1, (hpeer.awaits sender h).2⟩⟩
  · refine hrel.ledger.reply_other _ _ (fun ch hch => ?_) fun p hp => ?_
    · obtain ⟨sender, hsender, rfl⟩ := List.mem_map.mp hch
      exact hnew sender (Option.mem_toList.mp hsender)
    · obtain ⟨⟨sender, reply⟩, hmem, rfl⟩ := List.mem_map.mp hp
      rcases hquiet.replies sender reply hmem with hholds | hsender
      · obtain ⟨hmade, hother⟩ := hold.awaits sender hholds
        refine Or.inr ⟨hmade, fun ticket hticket heq => ?_⟩
        -- the channel of a call is not the one of another command
        obtain ⟨c, hc, rfl⟩ := List.mem_map.mp hticket
        obtain ⟨hcaller, heq⟩ := Prod.mk.inj heq
        exact hother c hc hcaller heq
      · exact Or.inl (by simp [hsender])

theorem refines_call (hrel : Refines s t) {peer to_peer : PeerId} {request : OrcaNetRequest F64}
    {sender : Sender} {swarm : Swarm} {alive : Sender → Bool} {env : HandlerEnv}
    {id : OutboundRequestId} (hselect : (s.node peer).network_phase = .select)
    (hid : (peer, swarm.send_request) ∉ s.calls.map Call.id) (hnew : (peer, sender) ∉ s.oneshots)
    (hn' : n' = { s.node peer with network := { (s.node peer).network with
      pending_request :=
        (s.node peer).network.pending_request.insert swarm.send_request sender } }) :
    ∃ ks t', RemoteCall.system.run t ks = some t' ∧
      Refines (record s ⟨peer, .network (.command
        (NetworkClient.send_request to_peer request sender) swarm) alive env, id⟩ n') t' := by
  let c : Call := ⟨peer, to_peer, request, swarm.send_request, sender⟩
  have hticket : c.id ∉ (s.calls.map Call.ticket).map RemoteCall.Ticket.id := by
    rwa [List.map_map]
  have hidle := hrel.ledger.fresh c.id hticket
  have hadv : RemoteCall.Advances t (t.set c.id (.sent c.abstract)) c.id :=
    RemoteCall.advances_set _ (by simp [hidle])
  have hold := hrel.nodes peer
  -- the caller is registered under the new id
  have hself : NodeInv (t.set c.id (.sent c.abstract)) s.channels (c :: s.calls)
      ((peer, sender) :: s.oneshots) peer n' := by
    subst hn'
    refine ⟨fun _ _ _ h => ?_, fun request' from_peer channel h => ?_, hold.apart, fun p h => ?_,
      fun request_id x h => ?_, fun x h => ?_⟩
    · simp [hselect] at h
    · obtain ⟨i, hi, hstage⟩ := hold.handling request' from_peer channel h
      exact ⟨i, hi, (hadv.frame (by simp [hstage, hidle])).trans hstage⟩
    · obtain ⟨i, c', hi, hserved⟩ := hold.responds p h
      exact ⟨i, c', hi, hadv.served hserved⟩
    · by_cases heq : request_id = swarm.send_request
      · subst heq
        obtain rfl : sender = x := by simpa using h
        exact ⟨c, List.mem_cons_self, rfl, rfl⟩
      · obtain ⟨c', hc', hspec⟩ := hold.registers request_id x (by simpa [heq] using h)
        exact ⟨c', List.mem_cons_of_mem _ hc', hspec⟩
    · -- channels of other commands were made before this one
      obtain ⟨hmade, hother⟩ := hold.awaits x (h.imp_left holdsElse_of_pending)
      refine ⟨List.mem_cons_of_mem _ hmade, fun c' hc' hcaller heq => ?_⟩
      rcases List.mem_cons.mp hc' with rfl | hc'
      · obtain rfl : sender = x := heq
        exact hnew hmade
      · exact hother c' hc' hcaller heq
  have hreplies : StreamRequests.replies (s.node peer)
      (.network (.command (.Request request to_peer sender) swarm) alive env) = [] := by
    simp [StreamRequests.replies, hselect, NetworkEventLoop.resume,
      NetworkEventLoop.handle_command]
  refine ⟨[.call c.id c.abstract, .send c.id], t.set c.id (.sent c.abstract), ?_, ?_⟩
  · simp [RemoteCall.system, RemoteCall.next, hidle]
  · simp only [record, act, NetworkClient.send_request, base, hreplies]
    refine ⟨nodes_update hself fun p hp => ?_, ?_, ?_, hrel.handled⟩
    · refine (hrel.nodes p).frame hadv (by simp [hidle]) (fun _ => rfl)
        (List.subset_cons_self _ _) (fun c' hc' hcaller => ?_) (List.subset_cons_self _ _)
      exact (List.mem_cons.mp hc').resolve_left fun h => hp (hcaller.symm.trans (h ▸ rfl))
    · refine hrel.wire.advance hadv (fun i hi => Function.update_of_ne hi _ _)
        (fun peer' request' heq => ?_) fun p hp => ?_
      · obtain ⟨rfl, rfl⟩ : to_peer = peer' ∧ request = request' := by
          simpa [Function.update_self] using
            (Function.update_self c.id (some (to_peer, request)) s.requests).symm.trans heq
        exact RemoteCall.State.set_self _ _ _
      · rcases hrel.wire.assigned p _ hp with ⟨c', hstage⟩ | ⟨c', result, hstage⟩ <;>
          rw [hidle] at hstage <;> cases hstage
    · exact hrel.ledger.issue (c := c.ticket) hticket hnew rfl

theorem refines_take_in (hrel : Refines s t) {peer from_peer : PeerId}
    {request : OrcaNetRequest F64} {channel : ResponseChannel} {alive : Sender → Bool}
    {env : HandlerEnv} {id : OutboundRequestId}
    (hselect : (s.node peer).network_phase = .select)
    (hflight : s.requests (from_peer, id) = some (peer, request))
    (hnew : s.channels (peer, channel) = none)
    (hn' : n' = { s.node peer with
      network_phase := .send_request_event request from_peer channel }) :
    ∃ ks t', RemoteCall.system.run t ks = some t' ∧
      Refines (record s
        ⟨peer, .network (.swarm_event (.Request from_peer request channel)) alive env, id⟩ n')
        t' := by
  have hsent : t.stage (from_peer, id) = .sent ⟨from_peer, peer, request⟩ :=
    hrel.wire.sent _ _ _ hflight
  have hunassigned : ∀ p, s.channels p ≠ some (from_peer, id) := by
    intro p hp
    rcases hrel.wire.assigned p _ hp with ⟨c, hstage⟩ | ⟨c, result, hstage⟩ <;>
      rw [hsent] at hstage <;> cases hstage
  let t' : Abstract := t.set (from_peer, id) (.serving ⟨from_peer, peer, request⟩)
  let channels := Function.update s.channels (peer, channel) (some (from_peer, id))
  have hadv : RemoteCall.Advances t t' (from_peer, id) :=
    RemoteCall.advances_set _ (by simp [hsent])
  have hold := hrel.nodes peer
  -- the other channels are those of other calls
  have hother : ∀ channel' i, s.channels (peer, channel') = some i →
      channels (peer, channel') = some i := by
    intro channel' i hi
    refine (Function.update_of_ne ?_ _ _).trans hi
    rintro heq
    cases heq
    rw [hnew] at hi
    cases hi
  have hself : NodeInv t' channels s.calls s.oneshots peer n' := by
    subst hn'
    refine ⟨fun request' from_peer' channel' h => ?_, fun request' from_peer' channel' h => ?_,
      fun _ _ channel₁ _ _ channel₂ h h' => ?_, fun p h => ?_, hold.registers, fun x h => ?_⟩
    · cases h
      exact ⟨_, Function.update_self _ _ _, RemoteCall.State.set_self _ _ _⟩
    · obtain ⟨i, hi, hstage⟩ := hold.handling request' from_peer' channel' h
      exact ⟨i, hother _ _ hi, (hadv.frame (by simp [hstage, hsent])).trans hstage⟩
    · -- the handler's channel was assigned before
      cases h
      rintro rfl
      obtain ⟨i, hi, -⟩ := hold.handling _ _ _ h'
      rw [hnew] at hi
      cases hi
    · obtain ⟨i, c', hi, hserved⟩ := hold.responds p h
      exact ⟨i, c', hother _ _ hi, hadv.served hserved⟩
    · exact hold.awaits x (h.imp_left fun h => h.imp_right nofun)
  have hreplies : StreamRequests.replies (s.node peer)
      (.network (.swarm_event (.Request from_peer request channel)) alive env) = [] := by
    simp [StreamRequests.replies, hselect, NetworkEventLoop.resume, NetworkEventLoop.handle_event]
  refine ⟨[.receive (from_peer, id)], t', by simp [RemoteCall.system, RemoteCall.next, hsent, t'],
    ?_⟩
  simp only [record, act, base, hreplies]
  refine ⟨nodes_update hself fun p hp => ?_, ?_, ?_, hrel.handled⟩
  · refine (hrel.nodes p).frame hadv (by simp [hsent]) (fun channel' => ?_)
      (List.Subset.refl _) (fun _ hc _ => hc) (List.Subset.refl _)
    exact Function.update_of_ne (by simp [hp]) _ _
  · have hwire : WireInv t' (Function.update s.requests (from_peer, id) none) s.channels
        s.responses :=
      hrel.wire.advance hadv (fun i hi => Function.update_of_ne hi _ _) (by simp)
        fun p hp => absurd hp (hunassigned p)
    exact hwire.assign (RemoteCall.State.set_self _ _ _) hunassigned (peer, channel)
  · exact hrel.ledger.advance hadv (by simp [t', hsent, RemoteCall.Stage.call]) (by simp [hsent])

theorem refines_take (hrel : Refines s t) {peer from_peer : PeerId}
    {request : OrcaNetRequest F64} {channel : ResponseChannel} {env : HandlerEnv}
    {id : OutboundRequestId}
    (hsending : (s.node peer).network_phase = .send_request_event request from_peer channel)
    (hn' : n' = { s.node peer with
      network_phase := .select
      handler_phase := .handle_event (.Request request from_peer channel) }) :
    Refines (record s ⟨peer, .take_event env, id⟩ n') t := by
  have hold := hrel.nodes peer
  have hself : NodeInv t s.channels s.calls s.oneshots peer n' := by
    subst hn'
    refine ⟨nofun, fun _ _ _ h => ?_, nofun, nofun, hold.registers, fun x h => ?_⟩
    · cases h
      exact hold.sending _ _ _ hsending
    · refine hold.awaits x (Or.inl ?_)
      exact (h.resolve_right nofun).imp_right nofun
  exact ⟨nodes_update hself fun p _ => hrel.nodes p, hrel.wire, hrel.ledger, hrel.handled⟩

theorem refines_handle (hrel : Refines s t) {peer from_peer : PeerId}
    {request : OrcaNetRequest F64} {channel : ResponseChannel} {env : HandlerEnv}
    {id : OutboundRequestId}
    (hhandling : (s.node peer).handler_phase = .handle_event (.Request request from_peer channel))
    (hnetwork : n'.network = (s.node peer).network)
    (hphase : n'.network_phase = (s.node peer).network_phase)
    (hevent : n'.handler_phase.event = none) (hsender : n'.handler_phase.sender = none)
    (hresponds : ∀ p, responding n'.handler_phase = some p → p.2 = channel ∧
      RequestHandlerLoop.response (RequestHandlerLoop.handle_request (s.node peer).handler.config
        env.toEnv request from_peer (s.node peer).handler.db) = some p.1) :
    ∃ ks t', RemoteCall.system.run t ks = some t' ∧
      Refines (record s ⟨peer, .handle env, id⟩ n') t' := by
  have hold := hrel.nodes peer
  obtain ⟨i, hi, hserving⟩ := hold.handling request from_peer channel (by rw [hhandling]; rfl)
  let result := RequestHandlerLoop.response
    (RequestHandlerLoop.handle_request (s.node peer).handler.config env.toEnv request from_peer
      (s.node peer).handler.db)
  let t' : Abstract := t.serve i ⟨from_peer, peer, request⟩ result
  have hadv : RemoteCall.Advances t t' i := RemoteCall.advances_serve hserving result
  have hself : NodeInv t' s.channels s.calls ((peer, env.new_oneshot) :: s.oneshots) peer n' := by
    refine ⟨fun request' from_peer' channel' h => ?_, by simp [hevent], by simp [hevent],
      fun p h => ?_, fun request_id x h => hold.registers request_id x (hnetwork ▸ h),
      fun x h => ?_⟩
    · -- the network loop has another request in hand
      rw [hphase] at h
      obtain ⟨i', hi', hstage⟩ := hold.sending _ _ _ h
      refine ⟨i', hi', (hadv.other i' ?_).trans hstage⟩
      rintro rfl
      have hne := hold.apart _ _ _ request from_peer channel h (by rw [hhandling]; rfl)
      exact hne (congrArg Prod.snd (hrel.wire.injective _ _ _ hi' hi))
    · obtain ⟨rfl, hresponse⟩ := hresponds p h
      exact ⟨i, _, hi, (RemoteCall.State.serve_self _ _ _ _).trans (congrArg _ hresponse)⟩
    · rw [HoldsElse, hsender, hnetwork, hphase] at h
      obtain ⟨hmade, hother⟩ := hold.awaits x (Or.inl (h.resolve_right nofun))
      exact ⟨List.mem_cons_of_mem _ hmade, hother⟩
  refine ⟨[.serve i result], t', by simp [RemoteCall.system, RemoteCall.next, hserving, t',
    RemoteCall.State.serve], ?_⟩
  simp only [record, act, hhandling, base]
  refine ⟨nodes_update hself fun p hp => ?_, ?_, ?_, ?_⟩
  · refine (hrel.nodes p).frame hadv (fun c hc => ?_) (fun _ => rfl)
      (List.Subset.refl _) (fun _ hc _ => hc) (List.subset_cons_self _ _)
    rw [hserving] at hc
    cases hc
    exact hp.symm
  · refine hrel.wire.advance hadv (fun _ _ => rfl) (fun peer' request' h => ?_)
      fun p _ => Or.inr ⟨_, _, RemoteCall.State.serve_self _ _ _ _⟩
    have hsent := hrel.wire.sent _ _ _ h
    rw [hserving] at hsent
    cases hsent
  · have hcall : (t'.stage i).call = (t.stage i).call := by
      simp [t', hserving, RemoteCall.Stage.call]
    exact (hrel.ledger.advance hadv hcall (by simp [hserving])).reply []
      [(peer, env.new_oneshot)] (by simp) (by simp)
  · refine hrel.handled.serve ?_
    simp [Handled.entry, Handled.response, hi, result]

theorem refines_respond (hrel : Refines s t) {peer : PeerId} {response : OrcaNetResponse F64}
    {channel : ResponseChannel} {swarm : Swarm} {alive : Sender → Bool} {env : HandlerEnv}
    {id : OutboundRequestId}
    (hresponding : (s.node peer).handler_phase = .respond response channel)
    (hsent : swarm.send_response = .ok ()) (hnetwork : n'.network = (s.node peer).network)
    (hphase : n'.network_phase = .select) (hhandler : n'.handler_phase = .next_event) :
    Refines (record s ⟨peer, .take_command swarm alive env, id⟩ n') t := by
  have hold := hrel.nodes peer
  obtain ⟨i, c, hi, hserved⟩ := hold.responds (response, channel) (by rw [hresponding]; rfl)
  have hself : NodeInv t s.channels s.calls s.oneshots peer n' := by
    refine ⟨by simp [hphase], by simp [hhandler, HandlerLoop.Phase.event],
      by simp [hphase], by simp [hhandler, responding],
      fun request_id x h => hold.registers request_id x (hnetwork ▸ h), fun x h => ?_⟩
    rw [HoldsElse, hnetwork, hphase, hhandler] at h
    rcases h with (h | h) | h
    · exact hold.awaits x (Or.inl (Or.inl h))
    · cases h
    · cases h
  have hreplies : StreamRequests.replies (s.node peer) (.take_command swarm alive env) = [] := by
    simp [StreamRequests.replies, hresponding, HandlerLoop.command,
      NetworkEventLoop.handle_command, hsent]
  simp only [record, act, hresponding, hsent, base, hreplies, hi]
  refine ⟨nodes_update hself fun p _ => hrel.nodes p, ⟨hrel.wire.sent, hrel.wire.assigned,
    hrel.wire.injective, fun j response' h => ?_⟩, hrel.ledger, hrel.handled⟩
  by_cases hj : j = i
  · subst hj
    obtain rfl : response = response' := by
      simpa using (Function.update_self j (some response) s.responses).symm.trans h
    exact ⟨c, hserved⟩
  · exact hrel.wire.carried j response' ((Function.update_of_ne hj _ _).symm.trans h)

theorem refines_complete (hrel : Refines s t) {request_id : OutboundRequestId}
    {result : Except String (OrcaNetResponse F64)}
    (hact : (∃ response, result = .ok response ∧
        act (s.node l.peer) l = .complete request_id response ∧
        s.responses (l.peer, request_id) = some response) ∨
      (∃ error, result = .error error) ∧ act (s.node l.peer) l = .other)
    (hnew : StreamRequests.new_oneshot l.step = none) (hsettled : n'.network_phase.Settled)
    (hpending : n'.network.pending_request =
      (s.node l.peer).network.pending_request.remove request_id)
    (hevent : n'.handler_phase.event = (s.node l.peer).handler_phase.event)
    (hresponds : ∀ p, responding n'.handler_phase = some p →
      responding (s.node l.peer).handler_phase = some p)
    (hholds : ∀ sender, HoldsElse n' sender → HoldsElse (s.node l.peer) sender)
    (hreplies : StreamRequests.replies (s.node l.peer) l.step = [] ∨ ∃ sender,
      (s.node l.peer).network.pending_request request_id = some sender ∧
        StreamRequests.replies (s.node l.peer) l.step = [(sender, .response result)]) :
    Refines (record s l n') t := by
  have hold := hrel.nodes l.peer
  have hsending : ∀ request from_peer channel,
      n'.network_phase ≠ .send_request_event request from_peer channel :=
    NetworkEventLoop.ne_send_request_event_of_settled hsettled
  have hself : NodeInv t s.channels s.calls s.oneshots l.peer n' :=
    ⟨fun _ _ _ h => absurd h (hsending _ _ _),
      fun _ _ _ h => hold.handling _ _ _ (hevent ▸ h),
      fun _ _ _ _ _ _ h => absurd h (hsending _ _ _),
      fun p h => hold.responds p (hresponds p h),
      fun id x h => hold.registers id x (Pending.of_remove (hpending ▸ h)),
      fun x h => hold.awaits x (hholds x h)⟩
  -- the caller found under the id gets the result of its own call
  have hledger : RemoteCall.Ledger StreamRequests.response_of t (s.calls.map Call.ticket)
      (base s l n').answers (base s l n').oneshots := by
    simp only [base, hnew]
    refine hrel.ledger.reply _ [] (fun p hp => ?_) fun ticket hticket a value hmem hvalue => ?_
    · rcases hreplies with hnone | ⟨sender, hwaits, hone⟩
      · simp [hnone] at hp
      · obtain rfl : p = ((l.peer, sender), .response result) := by simpa [hone] using hp
        obtain ⟨c, hc, hid, hsender⟩ := hold.registers request_id sender hwaits
        have hmade := hrel.ledger.made _ (List.mem_map_of_mem (f := Call.ticket) hc)
        have hcaller : c.caller = l.peer := congrArg Prod.fst hid
        simpa [Call.ticket, hcaller, hsender] using hmade
    · obtain ⟨c, hc, rfl⟩ := List.mem_map.mp hticket
      rcases hreplies with hnone | ⟨sender, hwaits, hone⟩
      · simp [hnone] at hmem
      · obtain ⟨⟨hcaller, hsender⟩, rfl⟩ :
            (c.caller = l.peer ∧ c.sender = sender) ∧ a = .response result := by
          simpa [hone, Call.ticket] using hmem
        rcases hact with ⟨response, rfl, -, hcarried⟩ | ⟨⟨error, rfl⟩, -⟩
        · obtain rfl := Option.some.inj hvalue
          obtain ⟨c', hserved⟩ := hrel.wire.carried _ _ hcarried
          have hentry : (s.node c.caller).network.pending_request request_id = some c.sender := by
            rw [hcaller, hsender]
            exact hwaits
          have hid := hrel.id_of_registers hc hentry
          have hcall := hrel.ledger.stages _ hticket
          simp only [Call.ticket, hid, hcaller, hserved, RemoteCall.Stage.call,
            Option.some.injEq] at hcall ⊢
          rw [hcall]
        · cases hvalue
  have hnodes : ∀ peer, NodeInv t s.channels s.calls s.oneshots peer
      (Function.update s.node l.peer n' peer) := nodes_update hself fun p _ => hrel.nodes p
  have honeshots : (base s l n').oneshots = s.oneshots := by simp [base, hnew]
  rcases hact with ⟨response, -, hact, -⟩ | ⟨-, hact⟩
  · simp only [record, hact]
    refine ⟨fun peer => ?_, ⟨hrel.wire.sent, hrel.wire.assigned, hrel.wire.injective,
      fun i response' h => ?_⟩, hledger, hrel.handled⟩
    · show NodeInv t s.channels s.calls (base s l n').oneshots peer _
      rw [honeshots]
      exact hnodes peer
    · by_cases hi : i = (l.peer, request_id)
      · rw [hi] at h
        simp at h
      · exact hrel.wire.carried i response' ((Function.update_of_ne hi _ _).symm.trans h)
  · simp only [record, hact]
    refine ⟨fun peer => ?_, hrel.wire, hledger, hrel.handled⟩
    rw [honeshots]
    exact hnodes peer

theorem new_of_allowed (h : allowed s l = true) (sender : Sender)
    (hsender : StreamRequests.new_oneshot l.step = some sender) :
    (l.peer, sender) ∉ s.oneshots := by
  have hnew := (Bool.and_eq_true_iff.mp (Bool.and_eq_true_iff.mp h).1).1
  simpa [hsender] using hnew

/-- The id of a call is new. -/
theorem call_of_allowed (h : allowed s l = true) {c : Call}
    (hact : act (s.node l.peer) l = .call c) : c.id ∉ s.calls.map Call.id := by
  have hnew := (Bool.and_eq_true_iff.mp (Bool.and_eq_true_iff.mp h).1).2
  simp only [hact, decide_eq_true_eq] at hnew
  exact hnew

/-- A request that is handed over was on its way, and gets a new channel. -/
theorem take_in_of_allowed (h : allowed s l = true) {id : CallId} {request : OrcaNetRequest F64}
    {channel : ResponseChannel} (hact : act (s.node l.peer) l = .take_in id request channel) :
    s.requests id = some (l.peer, request) ∧ s.channels (l.peer, channel) = none := by
  have hflight := (Bool.and_eq_true_iff.mp (Bool.and_eq_true_iff.mp h).1).2
  simp only [hact, decide_eq_true_eq] at hflight
  exact hflight

theorem complete_of_allowed (h : allowed s l = true) {request_id : OutboundRequestId}
    {response : OrcaNetResponse F64}
    (hact : act (s.node l.peer) l = .complete request_id response) :
    s.responses (l.peer, request_id) = some response := by
  have hflight := (Bool.and_eq_true_iff.mp (Bool.and_eq_true_iff.mp h).1).2
  simp only [hact, decide_eq_true_eq] at hflight
  exact hflight

/-- What a step of the network consists of. -/
theorem next_cases {s' : State} (h : next s l = some s') :
    ∃ n', allowed s l = true ∧ s' = record s l n' ∧ Effect (s.node l.peer) l n' := by
  obtain ⟨hallowed, n', hnext, rfl⟩ := next_eq_some h
  exact ⟨n', hallowed, rfl, next_effect hnext⟩

/-- Every step of the network is a run of the remote calls. -/
theorem refines_step {s' : State} (hrel : Refines s t) (h : next s l = some s') :
    ∃ ks t', RemoteCall.system.run t ks = some t' ∧ Refines s' t' := by
  obtain ⟨n', hallowed, rfl, heffect⟩ := next_cases h
  have hnew := new_of_allowed hallowed
  generalize hn : s.node l.peer = n at heffect
  cases heffect with
  | quiet hquiet => exact ⟨[], t, rfl, refines_quiet hrel (hn ▸ hquiet) hnew⟩
  | call hselect =>
    exact refines_call hrel (hn ▸ hselect) (call_of_allowed hallowed rfl) (hnew _ rfl) (hn ▸ rfl)
  | take_in hselect =>
    obtain ⟨hflight, hchannel⟩ := take_in_of_allowed hallowed rfl
    exact refines_take_in hrel (hn ▸ hselect) hflight hchannel (hn ▸ rfl)
  | take hsending => exact ⟨[], t, rfl, refines_take hrel (hn ▸ hsending) (hn ▸ rfl)⟩
  | handle hhandling hnetwork hphase hevent hsender hresponds =>
    subst hn
    exact refines_handle hrel hhandling hnetwork hphase hevent hsender hresponds
  | respond hresponding hsent hnetwork hphase hhandler =>
    subst hn
    exact ⟨[], t, rfl, refines_respond hrel hresponding hsent hnetwork hphase hhandler⟩
  | complete hact hnone hsettled hpending hevent hresponds hholds hreplies =>
    subst hn
    refine ⟨[], t, rfl, refines_complete hrel ?_ hnone hsettled hpending hevent hresponds hholds
      hreplies⟩
    refine hact.imp_left fun ⟨response, hresult, hact⟩ => ⟨response, hresult, hact, ?_⟩
    exact complete_of_allowed hallowed hact

end steps

/-! ## Section 3: Requests -/

theorem refines_of_init {s : State} (h : system.init s) : Refines s RemoteCall.init := by
  obtain ⟨hnodes, hrequests, hchannels, hresponses, hcalls, hhandled, hanswers, honeshots⟩ := h
  refine ⟨fun peer => ?_, ?_, ?_, by simp [RemoteCall.LogOf, hhandled, RemoteCall.init]⟩
  · obtain ⟨⟨hselect, hevent⟩, hnew⟩ := hnodes peer
    refine ⟨by simp [hselect], by simp [hevent, HandlerLoop.Phase.event], by simp [hselect],
      by simp [hevent, responding], fun request_id sender h => ?_, fun sender h => ?_⟩
    · rw [hnew] at h
      cases h
    · rw [HoldsElse, hselect, hevent, hnew] at h
      rcases h with (h | h) | h
      · cases h <;> rename_i h <;> cases h
      · cases h
      · cases h
  · constructor <;> simp [hrequests, hchannels, hresponses]
  · rw [hcalls, hanswers, honeshots]
    exact RemoteCall.ledger_init

theorem refines_of_reachable {s : State} (h : system.Reachable s) :
    ∃ t, RemoteCall.system.Reachable t ∧ Refines s t :=
  h.simulates_rel Refines (fun _ hs => ⟨RemoteCall.init, .init rfl, refines_of_init hs⟩)
    fun _ _ _ _ _ hrel hnext => refines_step hrel hnext

/-- The response that a caller got. -/
def Returned (s : State) (c : Call) (response : OrcaNetResponse F64) : Prop :=
  ((c.caller, c.sender), .response (.ok response)) ∈ s.answers

/-- The peer handled the call once, with the response. -/
def HandledOnce (s : State) (c : Call) (response : OrcaNetResponse F64) : Prop :=
  ∃ h, s.handled.filter (fun h => h.id = some c.id) = [h] ∧
    h.peer = c.peer ∧ h.from_peer = c.caller ∧ h.request = c.request ∧
    h.response = some response

theorem handledOnce_of_returned {s : State} {t : Abstract} (ht : RemoteCall.system.Reachable t)
    (hrel : Refines s t) {c : Call} (hc : c ∈ s.calls) {response : OrcaNetResponse F64}
    (h : Returned s c response) : HandledOnce s c response := by
  have hlog := RemoteCall.logged_of_reachable ht
  have hserved : t.stage c.id = .served c.abstract (some response) :=
    hrel.ledger.correlated c.ticket (List.mem_map_of_mem hc) _ _ h rfl
  obtain ⟨h, hh, hentry⟩ := hrel.handled.entry_of_served hlog hserved
  simp only [Handled.entry, Call.abstract, Prod.mk.injEq, RemoteCall.Call.mk.injEq] at hentry
  obtain ⟨-, ⟨hcaller, hpeer, hrequest⟩, hresponse⟩ := hentry
  exact ⟨h, hh, hpeer, hcaller, hrequest, hresponse⟩

/-- Every request that was handled is the one of a call. -/
theorem call_of_handled {s : State} {t : Abstract} (ht : RemoteCall.system.Reachable t)
    (hrel : Refines s t) {h : Handled} (hmem : h ∈ s.handled) :
    ∃ c ∈ s.calls, h.id = some c.id ∧ h.peer = c.peer ∧ h.from_peer = c.caller ∧
      h.request = c.request := by
  obtain ⟨ticket, hticket, hid, hcall⟩ :=
    hrel.ledger.ticket_of_entry (RemoteCall.logged_of_reachable ht) hrel.handled hmem
  obtain ⟨c, hc, rfl⟩ := List.mem_map.mp hticket
  simp only [Handled.entry, Call.ticket, Call.abstract, RemoteCall.Call.mk.injEq] at hid hcall
  exact ⟨c, hc, hid, hcall.2.1, hcall.1, hcall.2.2⟩

/-- No call is handled twice. -/
theorem handled_nodup {s : State} {t : Abstract} (ht : RemoteCall.system.Reachable t)
    (hrel : Refines s t) : (s.handled.map Handled.id).Nodup :=
  hrel.handled.nodup (RemoteCall.logged_of_reachable ht)

/-- The step sends the response to the caller. -/
def Returns (s : State) (l : Label) (c : Call) (response : OrcaNetResponse F64) : Prop :=
  l.peer = c.caller ∧
    (c.sender, .response (.ok response)) ∈ StreamRequests.replies (s.node l.peer) l.step

/-- A step that returns a response answers nobody else, and takes only the
    caller's own entry away. -/
theorem other_requests_of_returns {s s' : State} {t : Abstract} {l : Label} (hrel : Refines s t)
    (hnext : next s l = some s') {c : Call} (hc : c ∈ s.calls) {response : OrcaNetResponse F64}
    (h : Returns s l c response) :
    StreamRequests.replies (s.node l.peer) l.step = [(c.sender, .response (.ok response))] ∧
      ∀ peer id, (peer, id) ≠ c.id →
        (s'.node peer).network.pending_request id = (s.node peer).network.pending_request id := by
  obtain ⟨n', hallowed, rfl, heffect⟩ := next_cases hnext
  obtain ⟨hpeer, hmem⟩ := h
  have hnode := hrel.nodes l.peer
  generalize hn : s.node l.peer = n at heffect hmem hnode ⊢
  cases heffect with
  | quiet hquiet =>
    -- the channel of a call is not the one of another command
    rcases hquiet.replies _ _ hmem with hholds | hsender
    · exact absurd rfl ((hnode.awaits _ hholds).2 c hc hpeer.symm)
    · refine absurd (hrel.ledger.made c.ticket (List.mem_map_of_mem hc)) ?_
      have hfresh := new_of_allowed hallowed _ hsender
      rwa [hpeer] at hfresh
  | call hselect =>
    simp [StreamRequests.replies, hselect, NetworkEventLoop.resume, NetworkClient.send_request,
      NetworkEventLoop.handle_command] at hmem
  | take_in hselect =>
    simp [StreamRequests.replies, hselect, NetworkEventLoop.resume,
      NetworkEventLoop.handle_event] at hmem
  | take => simp [StreamRequests.replies] at hmem
  | handle => simp [StreamRequests.replies] at hmem
  | respond hresponding hsent =>
    simp [StreamRequests.replies, hresponding, HandlerLoop.command,
      NetworkEventLoop.handle_command, hsent] at hmem
  | @complete _ _ request_id result hact hnone hsettled hpending hevent hresponds hholds hreplies =>
    rcases hreplies with hempty | ⟨sender, hwaits, hone⟩
    · simp [hempty] at hmem
    · rw [hone] at hmem ⊢
      cases List.mem_singleton.mp hmem
      have hid := hrel.id_of_registers hc (by rw [← hpeer, hn]; exact hwaits)
      refine ⟨rfl, fun peer id hne => ?_⟩
      have hupdate : (record s l n').node = Function.update s.node l.peer n' := by
        rcases hact with ⟨_, -, hact⟩ | ⟨-, hact⟩ <;> simp only [record, hn, hact, base]
      rw [hupdate]
      by_cases hp : peer = l.peer
      · subst hp
        have hother : id ≠ request_id := by
          rintro rfl
          exact hne (by rw [hid, hpeer])
        rw [Function.update_self, hpending, Pending.remove_ne _ hother, hn]
      · rw [Function.update_of_ne hp]

/-- **Requests.**  In every reachable state of any number of nodes, a call of
    `send_request` that returned a response was handled exactly once, by its
    peer, with its request and its caller, and returned what `handle_request`
    produced there; nothing but calls was handled, and none of them twice; and
    the step that returns a response answers no other caller and takes no other
    pending request of any node away. -/
theorem requests_correlated (s : State) (h : system.Reachable s) :
    (∀ c ∈ s.calls, ∀ response, Returned s c response → HandledOnce s c response) ∧
      (∀ h ∈ s.handled, ∃ c ∈ s.calls, h.id = some c.id ∧ h.peer = c.peer ∧
        h.from_peer = c.caller ∧ h.request = c.request) ∧
      (s.handled.map Handled.id).Nodup ∧
      ∀ l s', next s l = some s' → ∀ c ∈ s.calls, ∀ response, Returns s l c response →
        StreamRequests.replies (s.node l.peer) l.step = [(c.sender, .response (.ok response))] ∧
          ∀ peer id, (peer, id) ≠ c.id →
            (s'.node peer).network.pending_request id =
              (s.node peer).network.pending_request id := by
  obtain ⟨t, ht, hrel⟩ := refines_of_reachable h
  exact ⟨fun c hc response => handledOnce_of_returned ht hrel hc,
    fun h hmem => call_of_handled ht hrel hmem, handled_nodup ht hrel,
    fun l s' hnext c hc response => other_requests_of_returns hrel hnext hc⟩

/-- A call, from the command to the response of its peer. -/
def callRun : List Label :=
  let caller : PeerId := ⟨"caller"⟩
  let peer : PeerId := ⟨"peer"⟩
  let request : OrcaNetRequest F64 := .FileMetadataRequest "file"
  let response : OrcaNetResponse F64 := .Error (.NotAProvider "Not a provider of requested file")
  let wake (p : PeerId) (w : NetworkEventLoop.Wake) : Label :=
    ⟨p, .network w (fun _ => true) .working, 4⟩
  [wake caller (.command (NetworkClient.send_request peer request 1) sampleSwarm),
   wake peer (.swarm_event (.Request caller request 7)), ⟨peer, .take_event .working, 0⟩,
   ⟨peer, .handle .working, 0⟩,
   ⟨peer, .take_command sampleSwarm (fun _ => true) .working, 0⟩,
   wake caller (.swarm_event (.Response 4 response))]

theorem callRun_isSome : (system.run idleNetwork callRun).isSome := by with_unfolding_all rfl

def calledNetwork : State := (system.run idleNetwork callRun).get callRun_isSome

theorem reachable_calledNetwork : system.Reachable calledNetwork :=
  .run callRun (.init ⟨fun _ => ⟨⟨rfl, rfl⟩, rfl⟩, fun _ => rfl, fun _ => rfl, fun _ => rfl, rfl,
    rfl, rfl, rfl⟩) (Option.some_get callRun_isSome).symm

theorem requests_correlated_calledNetwork :
    ∃ c ∈ calledNetwork.calls, ∃ response,
      Returned calledNetwork c response ∧ HandledOnce calledNetwork c response := by
  let c : Call := ⟨⟨"caller"⟩, ⟨"peer"⟩, .FileMetadataRequest "file", 4, 1⟩
  have hcalls : calledNetwork.calls = [c] := by with_unfolding_all rfl
  have hanswers : calledNetwork.answers = [((c.caller, c.sender),
      .response (.ok (.Error (.NotAProvider "Not a provider of requested file"))))] := by
    with_unfolding_all rfl
  have hc : c ∈ calledNetwork.calls := hcalls ▸ List.mem_singleton_self c
  have hreturned : Returned calledNetwork c
      (.Error (.NotAProvider "Not a provider of requested file")) := by
    rw [Returned, hanswers]
    exact List.mem_singleton_self _
  exact ⟨c, hc, _, hreturned,
    (requests_correlated calledNetwork reachable_calledNetwork).1 c hc _ hreturned⟩

end Requests

end OrcaNet
