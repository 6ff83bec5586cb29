import OrcaNet.Files.ProvidedFiles
import OrcaNet.Proxy.Sessions

/-! # Provider listings

    The two `get_providers` endpoints.  They ask every provider of a key for its
    metadata, one after the other (`Utils::request_from_peers`), and list those
    that answer with it.

    The endpoint of one node is followed through the network of `Requests`, in
    which everything else goes on meanwhile: requests and answers may be lost,
    the providers' rows and configurations change, and other callers ask too. -/

namespace OrcaNet

open Transition

/-! ## Section 1: Endpoints -/

/-- The responses that `request_from_peers` returns, where `replies` is what each
    call of `send_request` returned. -/
def Utils.request_from_peers (replies : List (PeerId × Except String (OrcaNetResponse F64))) :
    List (PeerId × OrcaNetResponse F64) :=
  replies.filterMap fun p =>
    match p.2 with
    | .ok resp => some (p.1, resp)
    -- an error is only logged
    | .error _ => none

/-- What both endpoints make of the responses.  (Without providers the one for
    proxies answers at once, with the same empty list.) -/
def list_metadata (entry : PeerId × OrcaNetResponse F64 → Option Json.Value)
    (responses : List (PeerId × OrcaNetResponse F64)) : AppResponse :=
  .success (.array (responses.filterMap entry))

namespace FileEndpoints

def file_entry : PeerId × OrcaNetResponse F64 → Option Json.Value
  | (peer_id, .FileMetadataResponse metadata) =>
    some (.object [("peer_id", .string peer_id.to_string), ("file_metadata", .object
      [("file_id", .string metadata.file_id), ("file_name", .string metadata.file_name),
        ("fee_rate_per_kb", .number metadata.fee_rate_per_kb),
        ("recipient_address", .string metadata.recipient_address)])])
  | _ => none

/-- `GET /get-providers/<file_id>` from the responses on. -/
def get_providers : List (PeerId × OrcaNetResponse F64) → AppResponse := list_metadata file_entry

end FileEndpoints

namespace ProxyEndpoints

def proxy_entry : PeerId × OrcaNetResponse F64 → Option Json.Value
  | (peer_id, .HTTPProxyMetadataResponse metadata) =>
    some (.object [("peer_id", .string peer_id.to_string), ("proxy_metadata", .object
      [("proxy_address", .string metadata.proxy_address),
        ("fee_rate_per_kb", .number metadata.fee_rate_per_kb),
        ("recipient_address", .string metadata.recipient_address)])])
  | _ => none

/-- `GET /get-providers` from the responses on. -/
def get_providers : List (PeerId × OrcaNetResponse F64) → AppResponse := list_metadata proxy_entry

end ProxyEndpoints

/-- What is listed. -/
inductive Listing where
  | file (file_id : String)
  | proxy

namespace Listing

def request : Listing → OrcaNetRequest F64
  | .file file_id => .FileMetadataRequest file_id
  | .proxy => .HTTPProxyMetadataRequest

def entry : Listing → PeerId × OrcaNetResponse F64 → Option Json.Value
  | .file _ => FileEndpoints.file_entry
  | .proxy => ProxyEndpoints.proxy_entry

def get_providers : Listing → List (PeerId × OrcaNetResponse F64) → AppResponse
  | .file _ => FileEndpoints.get_providers
  | .proxy => ProxyEndpoints.get_providers

theorem get_providers_eq (e : Listing) : e.get_providers = list_metadata e.entry := by
  cases e <;> rfl

/-! ## Section 2: System -/

structure State where
  net : Requests.State
  /-- The calls of the listing, oldest first.  No step reads them. -/
  asked : List Requests.Call
  /-- The providers in the order in which their set is iterated. -/
  peers : List PeerId
  /-- Those that were not asked yet. -/
  todo : List PeerId
  /-- The provider that was asked, and the channel of the call. -/
  waiting : Option (PeerId × Sender)
  replies : List (PeerId × Except String (OrcaNetResponse F64))

inductive Label where
  /-- A step of the network. -/
  | net (l : Requests.Label)
  /-- The network loop takes the command for the next provider. -/
  | send_request (sender : Sender) (swarm : Swarm) (alive : Sender → Bool) (env : HandlerEnv)
  /-- The endpoint takes the reply. -/
  | reply

def next (node : PeerId) (request : OrcaNetRequest F64) (s : State) : Label → Option State
  | .net l => (Requests.next s.net l).map fun net => { s with net := net }
  | .send_request sender swarm alive env =>
    match s.waiting, s.todo with
    | none, peer :: todo =>
      (Requests.next s.net ⟨node, .network (.command
        (NetworkClient.send_request peer request sender) swarm) alive env, 0⟩).map fun net =>
        { s with
          net := net
          asked := s.asked ++ [⟨node, peer, request, swarm.send_request, sender⟩]
          todo := todo
          waiting := some (peer, sender) }
    | _, _ => none
  | .reply =>
    match s.waiting with
    | some (peer, sender) =>
      match s.net.received node sender with
      | some (.response result) =>
        some { s with waiting := none, replies := s.replies ++ [(peer, result)] }
      | _ => none
    | none => none

/-- An endpoint that is about to ask the providers, which are a set. -/
structure Init (s : State) : Prop where
  net : Requests.system.init s.net
  asked : s.asked = []
  distinct : s.peers.Nodup
  todo : s.todo = s.peers
  waiting : s.waiting = none
  replies : s.replies = []

/-- The listing of `node`. -/
def system (node : PeerId) (request : OrcaNetRequest F64) : System State Label where
  init := Init
  next := next node request

/-- Every provider has answered. -/
def Done (s : State) : Prop := s.todo = [] ∧ s.waiting = none

/-! ## Section 3: Runs -/

/-- The call asks a provider on behalf of the endpoint. -/
structure Asks (node : PeerId) (request : OrcaNetRequest F64) (c : Requests.Call) (peer : PeerId) :
    Prop where
  caller : c.caller = node
  peer : c.peer = peer
  request : c.request = request

/-- The providers were asked in their order, each with one call, and every reply
    is the one to its call. -/
structure Inv (node : PeerId) (request : OrcaNetRequest F64) (s : State) : Prop where
  reachable : Requests.system.Reachable s.net
  distinct : s.peers.Nodup
  calls : s.asked ⊆ s.net.calls
  order : s.peers = s.asked.map Requests.Call.peer ++ s.todo
  replies : s.asked.map Requests.Call.peer = s.replies.map Prod.fst ++ s.waiting.toList.map Prod.fst
  waits : ∀ p, s.waiting = some p → ∃ c ∈ s.asked, Asks node request c p.1 ∧ c.sender = p.2
  replied : ∀ p ∈ s.replies, ∃ c ∈ s.asked, Asks node request c p.1 ∧
    ((node, c.sender), .response p.2) ∈ s.net.answers

section runs

variable {node : PeerId} {request : OrcaNetRequest F64} {s s' : State}

/-- Calls and answers are only added. -/
theorem net_grows {net net' : Requests.State} {l : Requests.Label}
    (h : Requests.next net l = some net') :
    net.calls ⊆ net'.calls ∧ net.answers ⊆ net'.answers := by
  obtain ⟨-, n', -, rfl⟩ := Requests.next_eq_some h
  have hanswers : net.answers ⊆ (Requests.base net l n').answers := List.subset_append_right _ _
  simp only [Requests.record]
  split
  case h_1 c hact => exact ⟨List.subset_cons_self _ _, hanswers⟩
  case h_4 => split <;> exact ⟨List.Subset.refl _, hanswers⟩
  all_goals exact ⟨List.Subset.refl _, hanswers⟩

theorem call_of_next {net net' : Requests.State} {peer : PeerId} {sender : Sender} {swarm : Swarm}
    {alive : Sender → Bool} {env : HandlerEnv} {id : OutboundRequestId}
    (h : Requests.next net ⟨node, .network (.command
      (NetworkClient.send_request peer request sender) swarm) alive env, id⟩ = some net') :
    ⟨node, peer, request, swarm.send_request, sender⟩ ∈ net'.calls := by
  obtain ⟨-, n', -, rfl⟩ := Requests.next_eq_some h
  exact List.mem_cons_self

/-- A step of the network takes no call and no answer away. -/
theorem Inv.grow (h : Inv node request s) {net' : Requests.State} {l : Requests.Label}
    (hnet : Requests.next s.net l = some net') : Inv node request { s with net := net' } := by
  obtain ⟨hcalls, hanswers⟩ := net_grows hnet
  refine ⟨.step h.reachable hnet, h.distinct, fun c hc => hcalls (h.calls hc), h.order, h.replies,
    h.waits, fun p hp => ?_⟩
  obtain ⟨c, hc, hasks, hanswer⟩ := h.replied p hp
  exact ⟨c, hc, hasks, hanswers hanswer⟩

theorem inv_step {l : Label} (hinv : Inv node request s) (h : next node request s l = some s') :
    Inv node request s' := by
  cases l with
  | net l =>
    obtain ⟨net', hnet, rfl⟩ := Option.map_eq_some_iff.mp h
    exact hinv.grow hnet
  | send_request sender swarm alive env =>
    simp only [next] at h
    split at h
    · rename_i peer todo hwaiting htodo
      obtain ⟨net', hnet, rfl⟩ := Option.map_eq_some_iff.mp h
      obtain ⟨hreachable, hdistinct, hcalls, horder, hreplies, -, hreplied⟩ := hinv.grow hnet
      refine ⟨hreachable, hdistinct, fun c hc => ?_, ?_, ?_, fun p hp => ?_, fun p hp => ?_⟩
      · rcases List.mem_append.mp hc with hold | hnew
        · exact hcalls hold
        · obtain rfl := List.mem_singleton.mp hnew
          exact call_of_next hnet
      · rw [htodo] at horder
        simpa using horder
      · rw [hwaiting] at hreplies
        simpa using hreplies
      · obtain rfl := Option.some.inj hp
        exact ⟨_, List.mem_append_right _ (List.mem_singleton_self _), ⟨rfl, rfl, rfl⟩, rfl⟩
      · obtain ⟨c, hc, hspec⟩ := hreplied p hp
        exact ⟨c, List.mem_append_left _ hc, hspec⟩
    · cases h
  | reply =>
    simp only [next] at h
    split at h
    · rename_i peer sender hwaiting
      split at h
      · rename_i result hanswer
        obtain rfl := Option.some.inj h
        refine ⟨hinv.reachable, hinv.distinct, hinv.calls, hinv.order, ?_, nofun, fun p hp => ?_⟩
        · have hreplies := hinv.replies
          rw [hwaiting] at hreplies
          simpa using hreplies
        · rcases List.mem_append.mp hp with hold | hnew
          · exact hinv.replied p hold
          · -- the reply to the call that was waited for
            obtain rfl := List.mem_singleton.mp hnew
            obtain ⟨c, hc, hasks, rfl⟩ := hinv.waits _ hwaiting
            exact ⟨c, hc, hasks, Requests.State.mem_answers_of_received hanswer⟩
      · cases h
    · cases h

theorem inv_of_reachable (h : (system node request).Reachable s) : Inv node request s := by
  refine System.Reachable.invariant (J := Inv node request) (fun t ht => ?_)
    (fun t l t' _ hinv hnext => inv_step hinv hnext) h
  obtain ⟨hnet, hasked, hdistinct, htodo, hwaiting, hreplies⟩ := ht
  refine ⟨.init hnet, hdistinct, ?_, ?_, ?_, ?_, ?_⟩ <;> simp [hasked, htodo, hwaiting, hreplies]

end runs

/-! ## Section 4: What is listed -/

theorem mem_request_from_peers {replies : List (PeerId × Except String (OrcaNetResponse F64))}
    {p : PeerId × OrcaNetResponse F64} :
    p ∈ Utils.request_from_peers replies ↔ (p.1, .ok p.2) ∈ replies := by
  rw [Utils.request_from_peers, List.mem_filterMap]
  constructor
  · rintro ⟨⟨peer, result⟩, hmem, hresp⟩
    cases result with
    | ok resp =>
      obtain rfl := Option.some.inj hresp
      exact hmem
    | error e => cases hresp
  · intro hmem
    exact ⟨_, hmem, rfl⟩

/-- Responses come in the order in which the providers were asked. -/
theorem request_from_peers_sublist
    (replies : List (PeerId × Except String (OrcaNetResponse F64))) :
    ((Utils.request_from_peers replies).map Prod.fst).Sublist (replies.map Prod.fst) := by
  induction replies with
  | nil => exact .slnil
  | cons p replies ih =>
    obtain ⟨peer, result⟩ := p
    cases result with
    | ok resp => exact ih.cons_cons peer
    | error e => exact ih.cons peer

/-- The provider handled, once, the call that the listing sent to it. -/
structure HandledFor (node : PeerId) (request : OrcaNetRequest F64) (s : State) (peer : PeerId)
    (h : Requests.Handled) : Prop where
  call : ∃ c ∈ s.asked, Asks node request c peer ∧
    s.net.handled.filter (fun h => h.id = some c.id) = [h]
  peer : h.peer = peer
  from_peer : h.from_peer = node
  request : h.request = request

/-- The provider had what it was asked for, and answered with its own data. -/
def Offers : Listing → Requests.Handled → OrcaNetResponse F64 → Prop
  | .file file_id, h, resp => ∃ r, h.db.provided_file file_id = some r ∧
    resp = .FileMetadataResponse (RequestHandlerLoop.file_metadata h.config file_id r)
  | .proxy, h, resp => h.config.get_proxy_config = some .ProxyProvider ∧
    resp = .HTTPProxyMetadataResponse (RequestHandlerLoop.proxy_metadata h.config)

/-- The provider did not find what it was asked for. -/
def Refuses : Listing → Requests.Handled → Prop
  | .file file_id, h =>
    ∃ e, ProvidedFilesTable.get_provided_file_info h.env file_id h.db = .error e
  | .proxy, h => h.config.get_proxy_config ≠ some .ProxyProvider

/-- A response is listed exactly if it offers something. -/
theorem offers_or_refuses (e : Listing) {h : Requests.Handled} (hrequest : h.request = e.request)
    {resp : OrcaNetResponse F64} (hresp : h.response = some resp) (peer : PeerId) :
    (e.Offers h resp ∧ (e.entry (peer, resp)).isSome) ∨
      (e.Refuses h ∧ e.entry (peer, resp) = none) := by
  rw [Requests.Handled.response, hrequest] at hresp
  cases e with
  | file file_id =>
    have hfile : RequestHandlerLoop.requested_file (.FileMetadataRequest file_id) = some file_id :=
      rfl
    have hanswer := RequestHandlerLoop.handle_request_file h.config h.env h.from_peer h.db hfile
    simp only [request] at hresp
    rw [hresp] at hanswer
    generalize RequestHandlerLoop.final _ = db' at hanswer
    cases hanswer with
    | not_a_provider hlookup => exact Or.inr ⟨⟨_, hlookup⟩, rfl⟩
    | metadata hfinds => exact Or.inl ⟨⟨_, hfinds.row, rfl⟩, rfl⟩
  | proxy =>
    simp only [request, RequestHandlerLoop.handle_request,
      RequestHandlerLoop.handle_http_proxy_request] at hresp
    cases hmode : h.config.get_proxy_config with
    | none =>
      simp only [hmode] at hresp
      obtain rfl := Option.some.inj hresp
      exact Or.inr ⟨by simp [Refuses, hmode], rfl⟩
    | some mode =>
      cases mode with
      | ProxyClient session_id =>
        simp only [hmode] at hresp
        obtain rfl := Option.some.inj hresp
        exact Or.inr ⟨by simp [Refuses, hmode], rfl⟩
      | ProxyProvider =>
        simp only [hmode] at hresp
        obtain rfl := Option.some.inj hresp
        exact Or.inl ⟨⟨hmode, rfl⟩, rfl⟩

/-- Every reply with a response comes from the provider that was asked. -/
theorem Inv.handled {node : PeerId} {request : OrcaNetRequest F64} {s : State}
    (hinv : Inv node request s) {peer : PeerId} {resp : OrcaNetResponse F64}
    (hmem : (peer, .ok resp) ∈ s.replies) :
    ∃ h, HandledFor node request s peer h ∧ h.response = some resp := by
  obtain ⟨c, hc, hasks, hanswer⟩ := hinv.replied _ hmem
  obtain ⟨t, ht, hrel⟩ := Requests.refines_of_reachable hinv.reachable
  have hreturned : Requests.Returned s.net c resp := by
    rw [Requests.Returned, hasks.caller]
    exact hanswer
  obtain ⟨h, hfilter, hpeer, hcaller, hrequest, hresp⟩ :=
    Requests.handledOnce_of_returned ht hrel (hinv.calls hc) hreturned
  exact ⟨h, ⟨⟨c, hc, hasks, hfilter⟩, hpeer.trans hasks.peer, hcaller.trans hasks.caller,
    hrequest.trans hasks.request⟩, hresp⟩

/-- What is listed of the providers' answers. -/
structure Listed (e : Listing) (node : PeerId) (s : State)
    (listed : List (PeerId × OrcaNetResponse F64)) : Prop where
  response : e.get_providers (Utils.request_from_peers s.replies) =
    .success (.array (listed.filterMap e.entry))
  /-- In the order in which they were asked. -/
  order : (listed.map Prod.fst).Sublist s.peers
  once : (listed.map Prod.fst).Nodup
  offered : ∀ p ∈ listed, (e.entry p).isSome ∧
    ∃ h, HandledFor node e.request s p.1 h ∧ e.Offers h p.2
  /-- Who is not listed has refused or could not be reached. -/
  others : ∀ peer ∈ s.peers, peer ∈ listed.map Prod.fst ∨
    (∃ error, (peer, .error error) ∈ s.replies) ∨
      ∃ h, HandledFor node e.request s peer h ∧ e.Refuses h

/-- **Provider listings.**  When `get_providers` has asked all providers, each of
    them with one call of its own, it lists some of them, each once.  Each provider that is
    listed handled that call, had a row for the file, or was in provider mode,
    and is listed with its own data from then; each one that is not listed either
    refused or could not be reached. -/
theorem providers_listed (e : Listing) (node : PeerId) (s : State)
    (h : (system node e.request).Reachable s) (hdone : Done s) :
    s.peers.Nodup ∧ s.asked.map Requests.Call.peer = s.peers ∧
      ∃ listed, Listed e node s listed := by
  have hinv := inv_of_reachable h
  have hasked : s.asked.map Requests.Call.peer = s.peers := by
    simpa [hdone.1] using hinv.order.symm
  have hpeers : s.peers = s.replies.map Prod.fst := by
    simpa [hasked, hdone.2] using hinv.replies
  have horder : (((Utils.request_from_peers s.replies).filter fun p => (e.entry p).isSome).map
      Prod.fst).Sublist s.peers := by
    rw [hpeers]
    exact (List.filter_sublist.map Prod.fst).trans (request_from_peers_sublist _)
  refine ⟨hinv.distinct, hasked,
    (Utils.request_from_peers s.replies).filter fun p => (e.entry p).isSome, ?_,
    horder, hinv.distinct.sublist horder, fun p hp => ?_, fun peer hpeer => ?_⟩
  · rw [get_providers_eq, list_metadata, List.filterMap_filter]
    congr 2
    refine List.filterMap_congr fun p _ => ?_
    cases e.entry p <;> rfl
  · obtain ⟨hmem, hentry⟩ := List.mem_filter.mp hp
    obtain ⟨h, hfor, hresp⟩ := hinv.handled (mem_request_from_peers.mp hmem)
    rcases offers_or_refuses e hfor.request hresp p.1 with ⟨hoffers, -⟩ | ⟨-, hnone⟩
    · exact ⟨hentry, h, hfor, hoffers⟩
    · rw [hnone] at hentry
      cases hentry
  · rw [hpeers] at hpeer
    obtain ⟨⟨peer, result⟩, hmem, rfl⟩ := List.mem_map.mp hpeer
    cases result with
    | error error => exact Or.inr (Or.inl ⟨error, hmem⟩)
    | ok resp =>
      obtain ⟨h, hfor, hresp⟩ := hinv.handled hmem
      rcases offers_or_refuses e hfor.request hresp peer with ⟨-, hsome⟩ | ⟨hrefuses, -⟩
      · refine Or.inl (List.mem_map.mpr ⟨(peer, resp), List.mem_filter.mpr ⟨?_, hsome⟩, rfl⟩)
        exact mem_request_from_peers.mpr hmem
      · exact Or.inr (Or.inr ⟨h, hfor, hrefuses⟩)

/-- A proxy provider is asked for its metadata. -/
def sampleRun : List Label :=
  let node : PeerId := ⟨"node"⟩
  let peer : PeerId := ⟨"peer"⟩
  let env := HandlerEnv.working
  let wake (p : PeerId) (w : NetworkEventLoop.Wake) : Label :=
    .net ⟨p, .network w (fun _ => true) env, 4⟩
  [.send_request 1 sampleSwarm (fun _ => true) env,
   wake peer (.swarm_event (.Request node .HTTPProxyMetadataRequest 7)),
   .net ⟨peer, .take_event env, 0⟩, .net ⟨peer, .handle env, 0⟩,
   .net ⟨peer, .take_command sampleSwarm (fun _ => true) env, 0⟩,
   wake node (.swarm_event (.Response 4 (.HTTPProxyMetadataResponse
     (RequestHandlerLoop.proxy_metadata OrcaNetConfig.sampleConfig)))),
   .reply]

def sampleState : State := ⟨Requests.idleNetwork, [], [⟨"peer"⟩], [⟨"peer"⟩], none, []⟩

theorem sampleRun_isSome :
    ((system ⟨"node"⟩ .HTTPProxyMetadataRequest).run sampleState sampleRun).isSome := by
  with_unfolding_all rfl

def listedState : State :=
  ((system ⟨"node"⟩ .HTTPProxyMetadataRequest).run sampleState sampleRun).get sampleRun_isSome

theorem reachable_listedState : (system ⟨"node"⟩ .HTTPProxyMetadataRequest).Reachable listedState :=
  .run sampleRun (.init ⟨⟨fun _ => ⟨⟨rfl, rfl⟩, rfl⟩, fun _ => rfl, fun _ => rfl, fun _ => rfl, rfl,
    rfl, rfl, rfl⟩, rfl, List.nodup_singleton _, rfl, rfl, rfl⟩)
    (Option.some_get sampleRun_isSome).symm

/-- The provider is listed. -/
theorem providers_listed_listedState :
    listedState.peers = [⟨"peer"⟩] ∧ Done listedState ∧ listedState.peers.Nodup ∧
      listedState.asked.map Requests.Call.peer = listedState.peers ∧
      ∃ listed, Listed .proxy ⟨"node"⟩ listedState listed := by
  have hdone : Done listedState := ⟨by with_unfolding_all rfl, by with_unfolding_all rfl⟩
  exact ⟨by with_unfolding_all rfl, hdone,
    providers_listed .proxy ⟨"node"⟩ listedState reachable_listedState hdone⟩

end Listing

end OrcaNet
