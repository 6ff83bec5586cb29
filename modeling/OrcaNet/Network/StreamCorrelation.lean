import OrcaNet.Framework.CallLedger
import OrcaNet.Network.StreamRequests

/-! # Correlation of stream requests

    The network of nodes refines remote calls that are served at most once:
    the stage of a call says which node has its request in hand, so a second
    copy of it would need a second node in the same place.  Every response is
    one of a served call, and finds its caller by the id of the call. -/

namespace OrcaNet

open Transition

namespace StreamRequests

/-! ## Section 1: Refinement of remote calls -/

/-- The remote calls, with the result `none` for a handler that panicked. -/
abbrev Abstract : Type :=
  RemoteCall.State String PeerId (OrcaNetRequest F64) (Option (OrcaNetResponse F64))

def Call.abstract (c : Call) : RemoteCall.Call PeerId (OrcaNetRequest F64) :=
  ⟨c.caller, c.peer, c.request⟩

def Call.ticket (c : Call) :
    RemoteCall.Ticket String PeerId (OrcaNetRequest F64) (PeerId × Sender) :=
  ⟨c.request_id, c.abstract, (c.caller, c.sender)⟩

/-- A handled request in the log of the remote calls. -/
def Handled.entry (h : Handled) :
    Option String × RemoteCall.Call PeerId (OrcaNetRequest F64) ×
      Option (OrcaNetResponse F64) :=
  (h.request_id, ⟨h.from_peer, h.peer, h.request⟩, h.response)

/-- What a node holds agrees with the stages of the calls. -/
structure NodeInv (t : Abstract) (calls : List Call) (oneshots : List (PeerId × Sender))
    (peer : PeerId) (n : NodeLoops.State) : Prop where
  synced : NodeLoops.Synced n
  holds : ∀ id st, Holds peer n id st → t.stage id = st
  responds : ∀ peer_id id response, Responds n peer_id id response →
    ∃ request, t.stage id = .served ⟨peer_id, peer, request⟩ (some response)
  registers : ∀ id sender, Registers n id sender →
    ∃ c ∈ calls, c.caller = peer ∧ c.request_id = id ∧ c.sender = sender
  awaits : ∀ sender, AwaitsOther n sender →
    (peer, sender) ∈ oneshots ∧ ∀ c ∈ calls, c.caller = peer → c.sender ≠ sender

/-- A message agrees with the stage of its call. -/
def MessageInv (t : Abstract) (m : Message) : Prop :=
  match m.stream_req.stream_data with
  | .Request request => t.stage m.stream_req.request_id = .sent ⟨m.from_peer, m.to_peer, request⟩
  | .Response response => ∃ request,
    t.stage m.stream_req.request_id = .served ⟨m.to_peer, m.from_peer, request⟩ (some response)

/-- The ids of the requests among the messages. -/
def request_ids (messages : List Message) : List String :=
  messages.filterMap fun m =>
    match m.stream_req.stream_data with
    | .Request _ => some m.stream_req.request_id
    | .Response _ => none

structure Refines (s : State) (t : Abstract) : Prop where
  nodes : ∀ peer, NodeInv t s.calls s.oneshots peer (s.node peer)
  messages : ∀ m ∈ s.in_flight, MessageInv t m
  once : (request_ids s.in_flight).Nodup
  ledger : RemoteCall.Ledger response_of t (s.calls.map Call.ticket) s.answers s.oneshots
  handled : RemoteCall.LogOf Handled.entry s.handled t

section frames

variable {t t' : Abstract} {id : String} {calls : List Call} {oneshots : List (PeerId × Sender)}
  {peer : PeerId} {n n' : NodeLoops.State}

/-- A node that has no part in the step. -/
theorem NodeInv.frame (h : NodeInv t calls oneshots peer n) (hadv : RemoteCall.Advances t t' id)
    (hholder : (t.stage id).holder ≠ some peer) : NodeInv t' calls oneshots peer n where
  synced := h.synced
  holds i st hholds := by
    have hstage := h.holds i st hholds
    rw [hadv.other i ?_, hstage]
    rintro rfl
    exact hholder (hstage ▸ hholds.holder)
  responds peer_id i response hresponds := by
    obtain ⟨request, hserved⟩ := h.responds peer_id i response hresponds
    exact ⟨request, hadv.served hserved⟩
  registers := h.registers
  awaits := h.awaits

/-- Other nodes make oneshot channels of their own. -/
theorem NodeInv.more_oneshots (h : NodeInv t calls oneshots peer n) (new : List (PeerId × Sender)) :
    NodeInv t calls (new ++ oneshots) peer n where
  synced := h.synced
  holds := h.holds
  responds := h.responds
  registers := h.registers
  awaits sender hawaits :=
    ⟨List.mem_append_right _ (h.awaits sender hawaits).1, (h.awaits sender hawaits).2⟩

/-- A call of another node. -/
theorem NodeInv.call (h : NodeInv t calls oneshots peer n) {c : Call} (hc : c.caller ≠ peer) :
    NodeInv t (c :: calls) oneshots peer n where
  synced := h.synced
  holds := h.holds
  responds := h.responds
  registers i sender hregisters := by
    obtain ⟨c', hc', hspec⟩ := h.registers i sender hregisters
    exact ⟨c', List.mem_cons_of_mem _ hc', hspec⟩
  awaits sender hawaits := by
    refine ⟨(h.awaits sender hawaits).1, fun c' hc' hcaller => ?_⟩
    rcases List.mem_cons.mp hc' with rfl | hc'
    · exact absurd hcaller hc
    · exact (h.awaits sender hawaits).2 c' hc' hcaller

theorem NodeInv.quiet {l : NodeLoops.Label} (h : NodeInv t calls oneshots peer n)
    (hquiet : Quiet peer n n' l) (hsync : NodeLoops.Synced n')
    (hmade : ∀ c ∈ calls, (c.caller, c.sender) ∈ oneshots)
    (hnew : ∀ sender, new_oneshot l = some sender → (peer, sender) ∉ oneshots) :
    NodeInv t calls ((new_oneshot l).toList.map (fun sender => (peer, sender)) ++ oneshots) peer
      n' where
  synced := hsync
  holds id st hholds := h.holds id st (hquiet.holds id st hholds)
  responds peer_id id response hr := h.responds _ _ _ (hquiet.responds peer_id id response hr)
  registers id sender hr := h.registers id sender (hquiet.registers id sender hr)
  awaits sender hawaits := by
    rcases hquiet.awaits sender hawaits with hold | hsender
    · exact ⟨List.mem_append_right _ (h.awaits sender hold).1, (h.awaits sender hold).2⟩
    · refine ⟨by simp [hsender], fun c hc hcaller heq => hnew sender hsender ?_⟩
      rw [← hcaller, ← heq]
      exact hmade c hc

theorem MessageInv.stage {m : Message} (h : MessageInv t m) :
    (∃ c, t.stage m.stream_req.request_id = .sent c) ∨
      ∃ c result, t.stage m.stream_req.request_id = .served c result := by
  unfold MessageInv at h
  split at h
  · exact Or.inl ⟨_, h⟩
  · obtain ⟨request, hserved⟩ := h
    exact Or.inr ⟨_, _, hserved⟩

/-- A message of another call, or a response. -/
theorem MessageInv.advance {m : Message} (h : MessageInv t m) (hadv : RemoteCall.Advances t t' id)
    (hne : ∀ c, t.stage m.stream_req.request_id = .sent c → m.stream_req.request_id ≠ id) :
    MessageInv t' m := by
  have hother : m.stream_req.request_id ≠ id := by
    rcases h.stage with ⟨c, hsent⟩ | ⟨c, result, hserved⟩
    · exact hne c hsent
    · rintro heq
      exact hadv.not_served c result (heq ▸ hserved)
  unfold MessageInv at h ⊢
  rwa [hadv.other _ hother]

/-- A request in flight is the only one with its id. -/
theorem request_id_not_mem {messages : List Message} {m : Message} {request : OrcaNetRequest F64}
    (hmem : m ∈ messages) (hm : m.stream_req.stream_data = .Request request)
    (honce : (request_ids messages).Nodup) :
    m.stream_req.request_id ∉ request_ids (messages.erase m) ∧
      (request_ids (messages.erase m)).Nodup := by
  have hperm := (List.perm_cons_erase hmem).filterMap fun m =>
    match m.stream_req.stream_data with
    | .Request _ => some m.stream_req.request_id
    | .Response _ => none
  have hnodup := hperm.nodup_iff.mp honce
  simpa [request_ids, List.filterMap_cons, hm] using hnodup

theorem request_ids_erase {messages : List Message} {m : Message}
    (honce : (request_ids messages).Nodup) : (request_ids (messages.erase m)).Nodup :=
  honce.sublist ((List.erase_sublist).filterMap _)

/-- A message whose call is on its way is its request. -/
theorem mem_request_ids {messages : List Message} {m : Message} (hmem : m ∈ messages)
    (h : MessageInv t m) {c : RemoteCall.Call PeerId (OrcaNetRequest F64)}
    (hsent : t.stage m.stream_req.request_id = .sent c) :
    m.stream_req.request_id ∈ request_ids messages := by
  refine List.mem_filterMap.mpr ⟨m, hmem, ?_⟩
  unfold MessageInv at h
  split at h
  · simp
  · obtain ⟨request, hserved⟩ := h
    rw [hsent] at hserved
    cases hserved

/-- The request of a call that is not on its way is not in flight. -/
theorem not_mem_request_ids {messages : List Message} (h : ∀ m ∈ messages, MessageInv t m)
    (hsent : ∀ c, t.stage id ≠ .sent c) : id ∉ request_ids messages := by
  intro hmem
  obtain ⟨m, hm, hdata⟩ := List.mem_filterMap.mp hmem
  have hinv := h m hm
  unfold MessageInv at hinv
  split at hdata
  · rename_i request hrequest
    obtain rfl := Option.some.inj hdata
    rw [hrequest] at hinv
    exact hsent _ hinv
  · cases hdata

end frames

/-! ## Section 2: The steps -/

section steps

variable {s : State} {t : Abstract} {peer : PeerId} {n' : NodeLoops.State} {l : NodeLoops.Label}

theorem nodes_update {node : PeerId → NodeLoops.State} {calls : List Call}
    {oneshots : List (PeerId × Sender)} (hself : NodeInv t calls oneshots peer n')
    (hother : ∀ p, p ≠ peer → NodeInv t calls oneshots p (node p)) (p : PeerId) :
    NodeInv t calls oneshots p (Function.update node peer n' p) :=
  (Function.forall_update_iff node (NodeInv t calls oneshots)).mpr ⟨hself, hother⟩ p

/-- The channel of a call was made. -/
theorem Refines.made (hrel : Refines s t) {c : Call} (hc : c ∈ s.calls) :
    (c.caller, c.sender) ∈ s.oneshots :=
  hrel.ledger.made c.ticket (List.mem_map_of_mem hc)

/-- An id that no call has is idle. -/
theorem Refines.fresh (hrel : Refines s t) {request_id : String}
    (h : request_id ∉ s.calls.map Call.request_id) : t.stage request_id = .idle :=
  hrel.ledger.fresh request_id (by rwa [List.map_map])

/-- The caller found under an id is the one whose call has the id. -/
theorem Refines.id_of_registers (hrel : Refines s t) {c : Call} (hc : c ∈ s.calls)
    {request_id : String} (h : Registers (s.node c.caller) request_id c.sender) :
    c.request_id = request_id := by
  obtain ⟨c', hc', hcaller, hid, hsender⟩ := (hrel.nodes c.caller).registers request_id _ h
  have heq := hrel.ledger.eq_of_channel (List.mem_map_of_mem (f := Call.ticket) hc')
    (List.mem_map_of_mem (f := Call.ticket) hc) (by simp [Call.ticket, hcaller, hsender])
  exact (congrArg RemoteCall.Ticket.id heq).symm.trans hid

theorem refines_quiet (hrel : Refines s t) (hquiet : Quiet peer (s.node peer) n' l)
    (hsync : NodeLoops.Synced n')
    (hnew : ∀ sender, new_oneshot l = some sender → (peer, sender) ∉ s.oneshots) :
    Refines (record s ⟨peer, l⟩ n') t := by
  refine ⟨?_, ?_, ?_, ?_, ?_⟩ <;>
    simp only [record, hquiet.issued, hquiet.sent, hquiet.received, hquiet.handled,
      Option.toList_none, List.nil_append]
  · exact nodes_update ((hrel.nodes peer).quiet hquiet hsync (fun _ => hrel.made) hnew)
      fun p _ => (hrel.nodes p).more_oneshots _
  · exact hrel.messages
  · exact hrel.once
  · refine hrel.ledger.reply_other _ _ (fun ch hch => ?_) fun p hp => ?_
    · obtain ⟨sender, hsender, rfl⟩ := List.mem_map.mp hch
      exact hnew sender (Option.mem_toList.mp hsender)
    · obtain ⟨⟨sender, reply⟩, hmem, rfl⟩ := List.mem_map.mp hp
      rcases hquiet.replies sender reply hmem with hawaits | hsender
      · obtain ⟨hmade, hother⟩ := (hrel.nodes peer).awaits sender hawaits
        refine Or.inr ⟨hmade, fun ticket hticket heq => ?_⟩
        -- the channel of a call is not the one of another command
        obtain ⟨c, hc, rfl⟩ := List.mem_map.mp hticket
        obtain ⟨hcaller, heq⟩ := Prod.mk.inj heq
        exact hother c hc hcaller heq
      · exact Or.inl (by simp [hsender])
  · exact hrel.handled

theorem refines_call (hrel : Refines s t) {peer_id : PeerId} {request : OrcaNetRequest F64}
    {request_id : String} {sender : Sender} {swarm : Swarm} {alive : Sender → Bool}
    {env : HandlerEnv} (hselect : (s.node peer).network_phase = .select)
    (hid : request_id ∉ s.calls.map Call.request_id) (hnew : (peer, sender) ∉ s.oneshots)
    (hn' : n' = { s.node peer with
      network_phase := .open_stream peer_id ⟨request_id, .Request request⟩ (some sender) })
    (hsync : NodeLoops.Synced n') :
    Refines (record s ⟨peer, .network (.command
      (NetworkClient.send_stream_request peer_id request request_id sender) swarm) alive env⟩ n')
      (t.set request_id (.calling ⟨peer, peer_id, request⟩)) := by
  have hidle := hrel.fresh hid
  have hadv : RemoteCall.Advances t (t.set request_id (.calling ⟨peer, peer_id, request⟩))
      request_id := RemoteCall.advances_set _ (by simp [hidle])
  let c : Call := ⟨peer, peer_id, request, request_id, sender⟩
  -- the caller has its request in hand and is registered under the new id
  have hself : NodeInv (t.set request_id (.calling ⟨peer, peer_id, request⟩)) (c :: s.calls)
      ((peer, sender) :: s.oneshots) peer n' := by
    have hold := hrel.nodes peer
    subst hn'
    refine ⟨hsync, fun id st h => ?_, fun p id response h => ?_, fun id x h => ?_, fun x h => ?_⟩
    · cases h with
      | calling h =>
        cases h
        exact RemoteCall.State.set_self _ _ _
      | sending_event h => cases h
      | handling h _ => cases h
    · obtain ⟨_, h⟩ := h
      cases h
    · cases h with
      | pending h =>
        obtain ⟨c', hc', hspec⟩ := hold.registers id x (.pending h)
        exact ⟨c', List.mem_cons_of_mem _ hc', hspec⟩
      | opening h =>
        cases h
        exact ⟨c, List.mem_cons_self, rfl, rfl, rfl⟩
      | writing h => cases h
    -- channels of other commands were made before this one
    · obtain ⟨hmade, hother⟩ := hold.awaits x h
      refine ⟨List.mem_cons_of_mem _ hmade, fun c' hc' hcaller heq => ?_⟩
      rcases List.mem_cons.mp hc' with rfl | hc'
      · obtain rfl : sender = x := heq
        exact hnew hmade
      · exact hother c' hc' hcaller heq
  refine ⟨nodes_update hself fun p hp => ?_, fun m hm => ?_, hrel.once, ?_, hrel.handled⟩
  · exact (((hrel.nodes p).frame hadv (by simp [hidle, RemoteCall.Stage.holder])).call
      (c := c) hp.symm).more_oneshots [(peer, sender)]
  · refine (hrel.messages m hm).advance hadv fun c hsent => ?_
    rintro rfl
    rw [hidle] at hsent
    cases hsent
  · have hreplies : replies (s.node peer) (.network (.command
        (NetworkClient.send_stream_request peer_id request request_id sender) swarm) alive env) =
        [] := by
      simp [replies, hselect, NetworkEventLoop.resume, NetworkClient.send_stream_request,
        NetworkEventLoop.handle_command]
    simp only [record, hreplies]
    exact hrel.ledger.issue (c := c.ticket) (by rwa [List.map_map]) hnew rfl

theorem refines_send (hrel : Refines s t) {peer_id : PeerId} {stream_req : StreamReq F64}
    {sender : Option Sender} {alive : Sender → Bool} {env : HandlerEnv}
    (hopen : (s.node peer).network_phase = .open_stream peer_id stream_req sender)
    (hn' : n' = { s.node peer with network_phase := .write_all peer_id stream_req sender })
    (hsync : NodeLoops.Synced n') :
    ∃ ks t', RemoteCall.system.run t ks = some t' ∧
      Refines (record s ⟨peer, .network (.opened (.ok ())) alive env⟩ n') t' := by
  have hself : ∀ t', NodeInv t' s.calls s.oneshots peer n' := by
    intro t'
    have hold := hrel.nodes peer
    subst hn'
    refine ⟨hsync, fun id st h => ?_, fun p id response h => ?_, fun id x h => ?_, hold.awaits⟩
    · cases h with
      | calling h => cases h
      | sending_event h => cases h
      | handling h _ => cases h
    · obtain ⟨_, h⟩ := h
      cases h
    · cases h with
      | pending h => exact hold.registers id x (.pending h)
      | opening h => cases h
      | writing h =>
        cases h
        exact hold.registers id x (.opening hopen)
  have hin_flight : (record s ⟨peer, .network (.opened (.ok ())) alive env⟩ n').in_flight =
      ⟨peer, peer_id, stream_req⟩ :: s.in_flight := by
    simp [record, sent, received, hopen]
  have hreplies : replies (s.node peer) (.network (.opened (.ok ())) alive env) = [] := by
    simp [replies, hopen, NetworkEventLoop.resume]
  obtain ⟨request_id, request | response⟩ := stream_req
  · -- the request leaves its caller
    have hcalling : t.stage request_id = .calling ⟨peer, peer_id, request⟩ :=
      (hrel.nodes peer).holds _ _ (.calling hopen)
    have hadv : RemoteCall.Advances t (t.set request_id (.sent ⟨peer, peer_id, request⟩))
        request_id := RemoteCall.advances_set _ (by simp [hcalling])
    refine ⟨[.send request_id], t.set request_id (.sent ⟨peer, peer_id, request⟩),
      by simp [RemoteCall.system, RemoteCall.next, hcalling],
      nodes_update (hself _) fun p hp => ?_, fun m hm => ?_, ?_, ?_, hrel.handled⟩
    · exact (hrel.nodes p).frame hadv (by simp [hcalling, RemoteCall.Stage.holder, hp.symm])
    · rw [hin_flight] at hm
      rcases List.mem_cons.mp hm with rfl | hm
      · exact RemoteCall.State.set_self _ _ _
      · refine (hrel.messages m hm).advance hadv fun c hsent => ?_
        rintro rfl
        rw [hcalling] at hsent
        cases hsent
    · rw [hin_flight]
      exact List.nodup_cons.mpr
        ⟨not_mem_request_ids hrel.messages (by simp [hcalling]), hrel.once⟩
    · simp only [record, hreplies]
      exact hrel.ledger.advance hadv (by simp [hcalling, RemoteCall.Stage.call])
        (by simp [hcalling])
  -- a response leaves: its call was served before
  · refine ⟨[], t, rfl, nodes_update (hself _) fun p _ => hrel.nodes p, fun m hm => ?_, ?_, ?_,
      hrel.handled⟩
    · rw [hin_flight] at hm
      rcases List.mem_cons.mp hm with rfl | hm
      · exact (hrel.nodes peer).responds peer_id request_id response ⟨sender, hopen⟩
      · exact hrel.messages m hm
    · rw [hin_flight]
      exact hrel.once
    · simp only [record, hreplies]
      exact hrel.ledger

theorem refines_receive (hrel : Refines s t) {peer_id : PeerId} {request_id : String}
    {request : OrcaNetRequest F64} {alive : Sender → Bool} {env : HandlerEnv}
    (hread : (s.node peer).network_phase = .read_to_end peer_id)
    (hflight : ⟨peer_id, peer, ⟨request_id, .Request request⟩⟩ ∈ s.in_flight)
    (hn' : n' = { s.node peer with
      network_phase := .send_stream_request_event peer_id request_id request })
    (hsync : NodeLoops.Synced n') :
    ∃ ks t', RemoteCall.system.run t ks = some t' ∧
      Refines (record s
        ⟨peer, .network (.read (.ok ⟨request_id, .Request request⟩)) alive env⟩ n') t' := by
  have hsent : t.stage request_id = .sent ⟨peer_id, peer, request⟩ := hrel.messages _ hflight
  have hadv : RemoteCall.Advances t (t.set request_id (.serving ⟨peer_id, peer, request⟩))
      request_id := RemoteCall.advances_set _ (by simp [hsent])
  have hself : NodeInv (t.set request_id (.serving ⟨peer_id, peer, request⟩)) s.calls s.oneshots
      peer n' := by
    have hold := hrel.nodes peer
    subst hn'
    refine ⟨hsync, fun id st h => ?_, fun p id response h => ?_, fun id x h => ?_, hold.awaits⟩
    · cases h with
      | calling h => cases h
      | sending_event h =>
        cases h
        exact RemoteCall.State.set_self _ _ _
      | handling h _ => cases h
    · obtain ⟨_, h⟩ := h
      cases h
    · cases h with
      | pending h => exact hold.registers id x (.pending h)
      | opening h => cases h
      | writing h => cases h
  have hreplies : replies (s.node peer)
      (.network (.read (.ok ⟨request_id, .Request request⟩)) alive env) = [] := by
    simp [replies, hread, NetworkEventLoop.resume, NetworkEventLoop.handle_stream_req]
  have hin_flight : (record s
      ⟨peer, .network (.read (.ok ⟨request_id, .Request request⟩)) alive env⟩ n').in_flight =
      s.in_flight.erase ⟨peer_id, peer, ⟨request_id, .Request request⟩⟩ := by
    simp [record, sent, received, hread]
  -- the message was the only one with its request
  obtain ⟨hgone, honce⟩ := request_id_not_mem hflight rfl hrel.once
  refine ⟨[.receive request_id], t.set request_id (.serving ⟨peer_id, peer, request⟩),
    by simp [RemoteCall.system, RemoteCall.next, hsent],
    nodes_update hself fun p hp => ?_, fun m hm => ?_, ?_, ?_, hrel.handled⟩
  · exact (hrel.nodes p).frame hadv (by simp [hsent, RemoteCall.Stage.holder])
  · rw [hin_flight] at hm
    refine (hrel.messages m (List.mem_of_mem_erase hm)).advance hadv fun c hsent' heq => hgone ?_
    have hmem := mem_request_ids hm (hrel.messages m (List.mem_of_mem_erase hm)) hsent'
    rwa [heq] at hmem
  · rw [hin_flight]
    exact honce
  · simp only [record, hreplies]
    exact hrel.ledger.advance hadv (by simp [hsent, RemoteCall.Stage.call]) (by simp [hsent])

theorem refines_handle (hrel : Refines s t) {peer_id : PeerId} {request_id : String}
    {request : OrcaNetRequest F64} {env : HandlerEnv}
    (hwait : (s.node peer).network_phase = .receive_response peer_id request_id)
    (hevent : (s.node peer).handler_phase.event = some (.StreamRequest request peer_id))
    (hnetwork : n'.network = (s.node peer).network)
    (hphase : n'.network_phase = match RequestHandlerLoop.response
        (RequestHandlerLoop.handle_request (s.node peer).handler.config env.toEnv request peer_id
          (s.node peer).handler.db) with
      | some response => .open_stream peer_id ⟨request_id, .Response response⟩ none
      | none => .panicked "Sender not to be dropped")
    (hsender : ∀ sender, n'.handler_phase.sender = some sender → sender = env.new_oneshot)
    (hnew : (peer, env.new_oneshot) ∉ s.oneshots) (hsync : NodeLoops.Synced n') :
    ∃ ks t', RemoteCall.system.run t ks = some t' ∧
      Refines (record s ⟨peer, .handle env⟩ n') t' := by
  have hserving : t.stage request_id = .serving ⟨peer_id, peer, request⟩ :=
    (hrel.nodes peer).holds _ _ (.handling hwait hevent)
  let result := RequestHandlerLoop.response
    (RequestHandlerLoop.handle_request (s.node peer).handler.config env.toEnv request peer_id
      (s.node peer).handler.db)
  -- the abstract server moves from serving the call to having served it
  let t' : Abstract := t.serve request_id ⟨peer_id, peer, request⟩ result
  have hadv : RemoteCall.Advances t t' request_id := RemoteCall.advances_serve hserving result
  have hself : NodeInv t' s.calls ((peer, env.new_oneshot) :: s.oneshots) peer n' := by
    have hold := hrel.nodes peer
    refine ⟨hsync, fun id st h => ?_, fun p id response h => ?_, fun id x h => ?_, fun x h => ?_⟩
    · -- the phase left is the write of the response, or a panic
      split at hphase
      · cases h with
        | calling h => rw [hphase] at h; cases h
        | sending_event h => rw [hphase] at h; cases h
        | handling h _ => rw [hphase] at h; cases h
      · exact absurd h (not_holds_of_streamless (by rw [hphase]; trivial) id st)
    · obtain ⟨_, h⟩ := h
      rw [hphase] at h
      split at h
      · rename_i response' hresponse
        cases h
        exact ⟨request, (RemoteCall.State.serve_self _ _ _ _).trans (congrArg _ hresponse)⟩
      · cases h
    · cases h with
      | pending h => exact hold.registers id x (.pending (hnetwork ▸ h))
      | opening h => rw [hphase] at h; split at h <;> cases h
      | writing h => rw [hphase] at h; split at h <;> cases h
    · rcases h with h | h
      · obtain ⟨hmade, hother⟩ := hold.awaits x (Or.inl (hnetwork ▸ h))
        exact ⟨List.mem_cons_of_mem _ hmade, hother⟩
      · -- the new channel of this segment belongs to no call
        obtain rfl := hsender x h
        refine ⟨List.mem_cons_self, fun c hc hcaller heq => hnew ?_⟩
        rw [← hcaller, ← heq]
        exact hrel.made hc
  refine ⟨[.serve request_id result], t',
    by simp [RemoteCall.system, RemoteCall.next, hserving, t', RemoteCall.State.serve],
    nodes_update hself fun p hp => ?_, fun m hm => ?_, hrel.once, ?_, ?_⟩
  · -- the stages of other requests, and so the other nodes, stay as they were
    have hframe := (hrel.nodes p).frame hadv
      (by simp [hserving, RemoteCall.Stage.holder, hp.symm])
    exact hframe.more_oneshots [(peer, env.new_oneshot)]
  · refine (hrel.messages m hm).advance hadv fun c hsent => ?_
    rintro rfl
    rw [hserving] at hsent
    cases hsent
  · have hcall : (t'.stage request_id).call = (t.stage request_id).call := by
      simp [t', hserving, RemoteCall.Stage.call]
    exact (hrel.ledger.advance hadv hcall (by simp [hserving])).reply []
      [(peer, env.new_oneshot)] (by simp) (by simp)
  · have hentered : (record s ⟨peer, .handle env⟩ n').handled =
        ⟨peer, some request_id, peer_id, request, (s.node peer).handler.config, env.toEnv,
          (s.node peer).handler.db⟩ :: s.handled := by
      simp [record, handled_by, hevent, hwait, awaited_id]
    rw [hentered]
    exact hrel.handled.serve rfl

theorem refines_answer (hrel : Refines s t) {peer_id : PeerId} {request_id : String}
    {response : OrcaNetResponse F64} {alive : Sender → Bool} {env : HandlerEnv}
    (hread : (s.node peer).network_phase = .read_to_end peer_id)
    (hflight : ⟨peer_id, peer, ⟨request_id, .Response response⟩⟩ ∈ s.in_flight)
    (hphase : Streamless n'.network_phase)
    (hpending : n'.network.pending_stream_requests =
      (s.node peer).network.pending_stream_requests.remove request_id)
    (hawaits : ∀ sender, AwaitsOther n' sender → AwaitsOther (s.node peer) sender)
    (hreplies : ∀ p ∈ replies (s.node peer)
        (.network (.read (.ok ⟨request_id, .Response response⟩)) alive env),
      (s.node peer).network.pending_stream_requests request_id = some p.1 ∧
        p.2 = .response (.ok response))
    (hsync : NodeLoops.Synced n') :
    Refines (record s
      ⟨peer, .network (.read (.ok ⟨request_id, .Response response⟩)) alive env⟩ n') t := by
  have hold := hrel.nodes peer
  obtain ⟨request, hserved⟩ : ∃ request,
      t.stage request_id = .served ⟨peer, peer_id, request⟩ (some response) :=
    hrel.messages _ hflight
  have hself : NodeInv t s.calls s.oneshots peer n' := by
    refine ⟨hsync, fun id st h => absurd h (not_holds_of_streamless hphase id st),
      fun p id response h => absurd h (not_responds_of_streamless hphase p id response),
      fun id x h => ?_, fun x h => hold.awaits x (hawaits x h)⟩
    have hmem := pending_of_streamless hphase h
    rw [hpending] at hmem
    exact hold.registers id x (.pending (Pending.of_remove hmem))
  have hin_flight : (record s
      ⟨peer, .network (.read (.ok ⟨request_id, .Response response⟩)) alive env⟩ n').in_flight =
      s.in_flight.erase ⟨peer_id, peer, ⟨request_id, .Response response⟩⟩ := by
    simp [record, sent, received, hread]
  refine ⟨nodes_update hself fun p _ => hrel.nodes p, fun m hm => ?_, ?_, ?_, hrel.handled⟩
  · rw [hin_flight] at hm
    exact hrel.messages m (List.mem_of_mem_erase hm)
  · rw [hin_flight]
    exact request_ids_erase hrel.once
  · refine hrel.ledger.reply _ [] (fun p hp => ?_) fun ticket hticket a result hmem hvalue => ?_
    · obtain ⟨⟨sender, reply⟩, hmem, rfl⟩ := List.mem_map.mp hp
      obtain ⟨hwaits, -⟩ := hreplies _ hmem
      obtain ⟨c, hc, hcaller, -, hsender⟩ := hold.registers request_id sender (.pending hwaits)
      exact hcaller ▸ hsender ▸ hrel.made hc
    · obtain ⟨c, hc, rfl⟩ := List.mem_map.mp hticket
      obtain ⟨⟨sender, reply⟩, hmem, heq⟩ := List.mem_map.mp hmem
      obtain ⟨hwaits, hreply⟩ := hreplies _ hmem
      simp only [Call.ticket, Prod.mk.injEq] at heq hreply hwaits
      obtain ⟨⟨rfl, rfl⟩, rfl⟩ := heq
      subst hreply
      obtain rfl := Option.some.inj hvalue
      -- the caller found under the id is the one of the served call
      have hid := hrel.id_of_registers hc (.pending hwaits)
      have hcall := hrel.ledger.stages _ hticket
      simp only [Call.ticket, hid, hserved, RemoteCall.Stage.call, Option.some.injEq] at hcall ⊢
      rw [hcall]

/-- A command sends in a stream only as part of a call with a new id. -/
theorem command_of_allowed (h : allowed s peer l = true) (c : NetworkCommand) (swarm : Swarm)
    (alive : Sender → Bool) (env : HandlerEnv)
    (hl : l = .network (.command c swarm) alive env) :
    (∃ peer_id request request_id sender,
      c = NetworkClient.send_stream_request peer_id request request_id sender ∧
      request_id ∉ s.calls.map Call.request_id) ∨
    ∀ peer_id stream_req sender, c ≠ .SendInStream peer_id stream_req sender := by
  subst hl
  cases c with
  | SendInStream peer_id stream_req sender =>
    obtain ⟨request_id, request | response⟩ := stream_req
    · cases sender with
      | none => simp [allowed, issued] at h
      | some sender =>
        refine Or.inl ⟨peer_id, request, request_id, sender, rfl, ?_⟩
        simpa [allowed, issued] using (Bool.and_eq_true_iff.mp h).2
    · simp [allowed, issued] at h
  | _ => exact Or.inr (by simp)

theorem new_of_allowed (h : allowed s peer l = true) (sender : Sender)
    (hsender : new_oneshot l = some sender) : (peer, sender) ∉ s.oneshots := by
  have hnew := (Bool.and_eq_true_iff.mp (Bool.and_eq_true_iff.mp h).1).1
  simpa [hsender] using hnew

theorem received_of_allowed (h : allowed s peer l = true) {m : Message}
    (hm : received peer (s.node peer) l = some m) : m ∈ s.in_flight := by
  have hflight := (Bool.and_eq_true_iff.mp (Bool.and_eq_true_iff.mp h).1).2
  simpa [hm] using hflight

/-- What a step of the network consists of. -/
theorem next_cases {s' : State} {l : Label} (hrel : Refines s t) (h : next s l = some s') :
    ∃ n', allowed s l.peer l.step = true ∧ s' = record s l n' ∧ NodeLoops.Synced n' ∧
      Effect l.peer (s.node l.peer) l.step n' := by
  obtain ⟨hallowed, hmap⟩ := Option.ite_none_right_eq_some.mp h
  obtain ⟨n', hnext, rfl⟩ := Option.map_eq_some_iff.mp hmap
  have hsync := (hrel.nodes l.peer).synced
  refine ⟨n', hallowed, rfl, NodeLoops.synced_step hsync hnext, next_effect hsync ?_ hnext⟩
  intro c swarm alive env hl
  rcases command_of_allowed hallowed c swarm alive env hl with ⟨_, _, _, _, hc, -⟩ | hother
  · exact Or.inl ⟨_, _, _, _, hc⟩
  · exact Or.inr hother

/-- Every step of the network is at most one step of the remote calls. -/
theorem refines_step {s' : State} {l : Label} (hrel : Refines s t) (h : next s l = some s') :
    ∃ ks t', RemoteCall.system.run t ks = some t' ∧ Refines s' t' := by
  obtain ⟨n', hallowed, rfl, hsync, heffect⟩ := next_cases hrel h
  obtain ⟨peer, l⟩ := l
  cases heffect with
  | quiet hquiet =>
    exact ⟨[], t, rfl, refines_quiet hrel hquiet hsync (new_of_allowed hallowed)⟩
  | @call peer_id request request_id sender swarm alive env hselect =>
    -- the id of the call is new, so the abstract call can start
    have hidle : t.stage request_id = .idle := hrel.fresh ?_
    refine ⟨[.call request_id ⟨peer, peer_id, request⟩], _, ?_,
      refines_call hrel hselect ?_ (new_of_allowed hallowed sender rfl) rfl hsync⟩
    · simp [RemoteCall.system, RemoteCall.next, hidle]
    all_goals
      rcases command_of_allowed hallowed _ _ _ _ rfl with ⟨_, _, _, _, heq, hid⟩ | hother
      · cases heq
        exact hid
      · exact absurd rfl (hother _ _ _)
  | send hopen => exact refines_send hrel hopen rfl hsync
  | receive hread =>
    exact refines_receive hrel hread (received_of_allowed hallowed (by simp [received, hread]))
      rfl hsync
  | handle hwait hevent hnetwork hphase hsender =>
    exact refines_handle hrel hwait hevent hnetwork hphase hsender
      (new_of_allowed hallowed _ rfl) hsync
  | answer hread hphase hpending hawaits hreplies =>
    -- the abstract client has its response already
    refine ⟨[], t, rfl, refines_answer hrel hread
      (received_of_allowed hallowed (by simp [received, hread])) hphase hpending hawaits ?_ hsync⟩
    rcases hreplies with hnone | ⟨sender, hsender, hone⟩
    · simp [hnone]
    · simp [hone, hsender]

end steps

/-! ## Section 3: Stream requests -/

theorem refines_of_reachable {s : State} (h : system.Reachable s) :
    ∃ t, RemoteCall.system.Reachable t ∧ Refines s t := by
  refine h.simulates_rel Refines ?_ fun s l s' t _ hrel hnext => refines_step hrel hnext
  rintro s ⟨hnodes, hflight, hcalls, hhandled, hanswers, honeshots⟩
  refine ⟨RemoteCall.init, .init rfl, fun peer => ?_, by simp [hflight],
    by simp [hflight, request_ids], ?_, by simp [RemoteCall.LogOf, hhandled, RemoteCall.init]⟩
  · obtain ⟨⟨hselect, hevent⟩, hnew⟩ := hnodes peer
    have hstreamless : Streamless (s.node peer).network_phase := by
      rw [hselect]
      trivial
    refine ⟨NodeLoops.synced_of_no_request (by simp [hselect])
        (by simp [hevent, HandlerLoop.Phase.event]),
      fun id st h => absurd h (not_holds_of_streamless hstreamless id st),
      fun p id response h => absurd h (not_responds_of_streamless hstreamless p id response),
      fun id sender h => ?_, fun sender h => ?_⟩
    · have hpending := pending_of_streamless hstreamless h
      rw [hnew] at hpending
      cases hpending
    · rcases h with h | h
      · rw [hnew] at h
        cases h <;> rename_i h <;> cases h
      · rw [hevent] at h
        cases h
  · rw [hcalls, hanswers, honeshots]
    exact RemoteCall.ledger_init

/-- The response that a caller got in the end. -/
def Returned (s : State) (c : Call) (response : OrcaNetResponse F64) : Prop :=
  ((c.caller, c.sender), .response (.ok response)) ∈ s.answers

/-- The step sends the response to the caller. -/
def Returns (s : State) (l : Label) (c : Call) (response : OrcaNetResponse F64) : Prop :=
  l.peer = c.caller ∧ (c.sender, .response (.ok response)) ∈ replies (s.node l.peer) l.step

/-- The peer handled the call once, with the response. -/
def HandledOnce (s : State) (c : Call) (response : OrcaNetResponse F64) : Prop :=
  ∃ h, s.handled.filter (fun h => h.request_id = some c.request_id) = [h] ∧
    h.peer = c.peer ∧ h.from_peer = c.caller ∧ h.request = c.request ∧
    h.response = some response

theorem handledOnce_of_returned {s : State} {t : Abstract} (ht : RemoteCall.system.Reachable t)
    (hrel : Refines s t) {c : Call} (hc : c ∈ s.calls) {response : OrcaNetResponse F64}
    (h : Returned s c response) : HandledOnce s c response := by
  have hlog := RemoteCall.logged_of_reachable ht
  have hserved : t.stage c.request_id = .served c.abstract (some response) :=
    hrel.ledger.correlated c.ticket (List.mem_map_of_mem hc) _ _ h rfl
  obtain ⟨h, hh, hentry⟩ := hrel.handled.entry_of_served hlog hserved
  simp only [Handled.entry, Call.abstract, Prod.mk.injEq, RemoteCall.Call.mk.injEq] at hentry
  obtain ⟨-, ⟨hcaller, hpeer, hrequest⟩, hresponse⟩ := hentry
  exact ⟨h, hh, hpeer, hcaller, hrequest, hresponse⟩

/-- Every request that was handled is the one of a call. -/
theorem call_of_handled {s : State} {t : Abstract} (ht : RemoteCall.system.Reachable t)
    (hrel : Refines s t) {h : Handled} (hmem : h ∈ s.handled) :
    ∃ c ∈ s.calls, h.request_id = some c.request_id ∧ h.peer = c.peer ∧
      h.from_peer = c.caller ∧ h.request = c.request := by
  obtain ⟨ticket, hticket, hid, hcall⟩ :=
    hrel.ledger.ticket_of_entry (RemoteCall.logged_of_reachable ht) hrel.handled hmem
  obtain ⟨c, hc, rfl⟩ := List.mem_map.mp hticket
  simp only [Handled.entry, Call.ticket, Call.abstract, RemoteCall.Call.mk.injEq] at hid hcall
  exact ⟨c, hc, hid, hcall.2.1, hcall.1, hcall.2.2⟩

/-- A step that returns a response answers nobody else, and takes only the
    caller's own entry away. -/
theorem other_requests_of_returns {s s' : State} {t : Abstract} {l : Label} (hrel : Refines s t)
    (hnext : next s l = some s') {c : Call} (hc : c ∈ s.calls) {response : OrcaNetResponse F64}
    (h : Returns s l c response) :
    replies (s.node l.peer) l.step = [(c.sender, .response (.ok response))] ∧
      ∀ peer id, (peer, id) ≠ (c.caller, c.request_id) →
        (s'.node peer).network.pending_stream_requests id =
          (s.node peer).network.pending_stream_requests id := by
  obtain ⟨n', hallowed, rfl, hsync, heffect⟩ := next_cases hrel hnext
  obtain ⟨peer, l⟩ := l
  obtain ⟨hpeer, hmem⟩ := h
  obtain rfl : peer = c.caller := hpeer
  have hnode := hrel.nodes c.caller
  simp only at hmem heffect hallowed ⊢
  cases heffect with
  | quiet hquiet =>
    -- the channel of a call is not the one of another command
    rcases hquiet.replies _ _ hmem with hawaits | hsender
    · exact absurd rfl ((hnode.awaits _ hawaits).2 c hc rfl)
    · exact absurd (hrel.made hc) (new_of_allowed hallowed _ hsender)
  | call hselect =>
    simp [replies, hselect, NetworkEventLoop.resume, NetworkClient.send_stream_request,
      NetworkEventLoop.handle_command] at hmem
  | send hopen => simp [replies, hopen, NetworkEventLoop.resume] at hmem
  | receive hread =>
    simp [replies, hread, NetworkEventLoop.resume, NetworkEventLoop.handle_stream_req] at hmem
  | handle => simp [replies] at hmem
  | answer hread hphase hpending hawaits hreplies =>
    rcases hreplies with hnone | ⟨sender, hsender, hone⟩
    · simp [hnone] at hmem
    · rw [hone] at hmem ⊢
      cases List.mem_singleton.mp hmem
      have hid := hrel.id_of_registers hc (.pending hsender)
      refine ⟨rfl, fun p id hne => ?_⟩
      simp only [record]
      by_cases hp : p = c.caller
      · subst hp
        have hother : id ≠ c.request_id := fun h => hne (by rw [h])
        rw [Function.update_self, hpending, ← hid, Pending.remove_ne _ hother]
      · rw [Function.update_of_ne hp]

/-- **Stream requests.**  In every reachable state of any number of nodes, a
    call that returned a response was handled exactly once, by its peer, with
    its request and its caller, and returned what `handle_request` produced
    there; nothing but calls was handled; and the step that returns a response
    answers no other caller and takes no other pending request of any node away. -/
theorem stream_requests_correlated (s : State) (h : system.Reachable s) :
    (∀ c ∈ s.calls, ∀ response, Returned s c response → HandledOnce s c response) ∧
      (∀ h ∈ s.handled, ∃ c ∈ s.calls, h.request_id = some c.request_id ∧ h.peer = c.peer ∧
        h.from_peer = c.caller ∧ h.request = c.request) ∧
      ∀ l s', next s l = some s' → ∀ c ∈ s.calls, ∀ response, Returns s l c response →
        Returned s' c response ∧ HandledOnce s' c response ∧
          replies (s.node l.peer) l.step = [(c.sender, .response (.ok response))] ∧
          ∀ peer id, (peer, id) ≠ (c.caller, c.request_id) →
            (s'.node peer).network.pending_stream_requests id =
              (s.node peer).network.pending_stream_requests id := by
  obtain ⟨t, ht, hrel⟩ := refines_of_reachable h
  refine ⟨fun c hc response => handledOnce_of_returned ht hrel hc,
    fun h hmem => call_of_handled ht hrel hmem, fun l s' hnext c hc response hreturns => ?_⟩
  obtain ⟨ks, t', hrun, hrel'⟩ := refines_step hrel hnext
  obtain ⟨n', -, rfl, -, -⟩ := next_cases hrel hnext
  have hreturned : Returned (record s l n') c response := by
    obtain ⟨hpeer, hmem⟩ := hreturns
    refine List.mem_append_left _ (List.mem_map.mpr ⟨_, hmem, ?_⟩)
    rw [hpeer]
  have hc' : c ∈ (record s l n').calls := List.mem_append_right _ hc
  exact ⟨hreturned, handledOnce_of_returned (ht.run ks hrun) hrel' hc' hreturned,
    other_requests_of_returns hrel hnext hc hreturns⟩

/-- A call, from the command to the response of its peer. -/
def callRun : List Label :=
  let caller : PeerId := ⟨"caller"⟩
  let peer : PeerId := ⟨"peer"⟩
  let request : OrcaNetRequest F64 := .FileMetadataRequest "file"
  let response : OrcaNetResponse F64 := .Error (.NotAProvider "Not a provider of requested file")
  let wake (p : PeerId) (w : NetworkEventLoop.Wake) : Label :=
    ⟨p, .network w (fun _ => true) .working⟩
  [wake caller (.command (NetworkClient.send_stream_request peer request "id" 1) sampleSwarm),
   wake caller (.opened (.ok ())), wake peer (.incoming caller),
   wake peer (.read (.ok ⟨"id", .Request request⟩)), ⟨peer, .take_event .working⟩,
   wake caller (.written (.ok ())), wake caller .closed, ⟨peer, .handle .working⟩,
   wake peer (.opened (.ok ())), wake caller (.incoming peer),
   wake caller (.read (.ok ⟨"id", .Response response⟩))]

theorem callRun_isSome : (system.run idleNetwork callRun).isSome := by with_unfolding_all rfl

def calledNetwork : State := (system.run idleNetwork callRun).get callRun_isSome

theorem reachable_calledNetwork : system.Reachable calledNetwork :=
  .run callRun (.init ⟨fun _ => ⟨⟨rfl, rfl⟩, rfl⟩, rfl, rfl, rfl, rfl, rfl⟩)
    (Option.some_get callRun_isSome).symm

theorem stream_requests_correlated_calledNetwork :
    ∃ c ∈ calledNetwork.calls, ∃ response,
      Returned calledNetwork c response ∧ HandledOnce calledNetwork c response := by
  let c : Call := ⟨⟨"caller"⟩, ⟨"peer"⟩, .FileMetadataRequest "file", "id", 1⟩
  have hcalls : calledNetwork.calls = [c] := by with_unfolding_all rfl
  have hanswers : calledNetwork.answers = [((c.caller, c.sender),
      .response (.ok (.Error (.NotAProvider "Not a provider of requested file"))))] := by
    with_unfolding_all rfl
  have hc : c ∈ calledNetwork.calls := hcalls ▸ List.mem_singleton_self c
  have hreturned : Returned calledNetwork c
      (.Error (.NotAProvider "Not a provider of requested file")) := by
    rw [Returned, hanswers]
    exact List.mem_singleton_self _
  exact ⟨c, hc, _, hreturned,
    (stream_requests_correlated calledNetwork reachable_calledNetwork).1 c hc _ hreturned⟩

end StreamRequests

end OrcaNet
