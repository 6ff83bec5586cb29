import OrcaNet.Framework.System
import OrcaNet.Proxy.ProxyHandlers
import OrcaNet.Proxy.ProxyPayment

/-! # Billing

    A proxy session seen from both ends: the client relays requests to the
    provider, and each keeps a total of the data transferred, on which the
    payment protocol runs.

    The client adds the body of every standard response that it read to the
    end.  The provider adds nothing, so its total stays where it was. -/

namespace OrcaNet

open Transition

namespace Billing

/-! ## Section 1: System -/

/-- A request on its way. -/
structure Relay where
  method : Method
  client : ProxyClient.Phase
  /-- `none` as long as the request did not reach the provider. -/
  provider : Option ProxyProvider.Phase
  /-- What the provider sent back. -/
  response : Option Response

structure State where
  client_db : Database
  provider_db : Database
  /-- The requests so far, by number. -/
  requests : ℕ → Option Relay

inductive Label where
  /-- An application sends a request to the client. -/
  | accept (id : ℕ) (method : Method)
  /-- The relayed request reaches the provider. -/
  | arrive (id : ℕ) (env : Env)
  | provider (id : ℕ) (event : ProxyProvider.Event)
  | client (id : ℕ) (event : ProxyClient.Event)

/-- The client reads what the provider sent, unless the connection breaks. -/
def Delivers (relay : Relay) : ProxyClient.Event → Prop
  | .response (.ok status) => ∃ response ∈ relay.response, response.status = status
  | .body (.ok bytes) => ∃ response ∈ relay.response, response.body = bytes
  | _ => True

instance (relay : Relay) : DecidablePred (Delivers relay)
  | .response (.ok status) =>
    inferInstanceAs (Decidable (∃ response ∈ relay.response, response.status = status))
  | .body (.ok bytes) =>
    inferInstanceAs (Decidable (∃ response ∈ relay.response, response.body = bytes))
  | .response (.error _) | .body (.error _) | .upgraded _ | .closed _ => .isTrue trivial

def State.set (s : State) (id : ℕ) (relay : Relay) : State :=
  { s with requests := Function.update s.requests id (some relay) }

/-- A handler of the provider went on. -/
def Relay.answered (relay : Relay) (o : ProxyProvider.Outcome) : Relay :=
  { relay with provider := some o.phase, response := o.response.or relay.response }

variable (session_info : ProxySessionInfo)

def next (s : State) : Label → Option State
  | .accept id method =>
    match s.requests id with
    | none => some (s.set id ⟨method, ProxyClient.handle_request method, none, none⟩)
    | some _ => none
  | .arrive id env =>
    match s.requests id with
    | some relay =>
      match relay.provider with
      | none => some (s.set id (relay.answered (ProxyProvider.handle_request env relay.method
          (ProxyClient.authorization session_info) s.provider_db)))
      | some _ => none
    | none => none
  | .provider id event =>
    match s.requests id with
    | some relay =>
      (relay.provider.bind (ProxyProvider.resume · event)).map
        fun o => s.set id (relay.answered o)
    | none => none
  | .client id event =>
    match s.requests id with
    | some relay =>
      if Delivers relay event then
        (ProxyClient.resume session_info s.client_db relay.client event).map
          fun p => { s.set id { relay with client := p.1 } with client_db := p.2 }
      else none
    | none => none

/-- The total that the client keeps for the session. -/
def State.session_total (s : State) : Option F64 :=
  (s.client_db.proxy_sessions.find ProxySessionInfo.session_id session_info.session_id).map
    (·.data_transferred_kb)

/-- The total that the provider keeps for the token. -/
def State.client_total (s : State) : Option F64 :=
  (s.provider_db.proxy_clients.find ProxyClientInfo.auth_token session_info.auth_token).map
    (·.data_transferred_kb)

/-- A session that starts. -/
structure Init (s : State) : Prop where
  session : s.session_total session_info = some 0
  client : s.client_total session_info = some 0
  requests : ∀ id, s.requests id = none

def system : System State Label where
  init := Init session_info
  next := next session_info

/-! ## Section 2: Totals -/

/-- What the client adds up in a step. -/
def transferred : Label → F64
  | .client _ (.body (.ok bytes)) => ProxyClient.size_kb bytes
  | _ => 0

/-- Neither end works on a request. -/
def Relay.Done (relay : Relay) : Prop :=
  relay.client.Ended ∧ ∀ phase ∈ relay.provider, phase.Ended

/-- No request is in progress. -/
def Quiescent (s : State) : Prop := ∀ id relay, s.requests id = some relay → relay.Done

theorem session_total_of_client_db {s s' : State} (h : s'.client_db = s.client_db) :
    s'.session_total session_info = s.session_total session_info := by
  rw [State.session_total, State.session_total, h]

/-- An update adds to the total of the session. -/
theorem session_total_of_update {s s' : State} {kb : F64} (h : s'.client_db =
    ProxySessionsTable.update_data_transfer_info session_info.session_id kb s.client_db) :
    s'.session_total session_info = (s.session_total session_info).map (· + kb) := by
  rw [State.session_total, h, ProxySessionsTable.update_data_transfer_info,
    Table.find_update (by simp), State.session_total, Option.map_map, Option.map_map]
  refine Option.map_congr fun r hr => ?_
  have hid : r.session_id = session_info.session_id := (Table.find_mem hr).2
  simp [hid]

/-- Only a body that the client read to its end changes its database. -/
theorem client_resume_db {db db' : Database} {ph ph' : ProxyClient.Phase}
    {event : ProxyClient.Event} (id : ℕ)
    (h : ProxyClient.resume session_info db ph event = some (ph', db')) :
    db' = db ∧ transferred (.client id event) = 0 ∨
      db' = ProxySessionsTable.update_data_transfer_info session_info.session_id
        (transferred (.client id event)) db := by
  unfold ProxyClient.resume at h
  split at h
  case h_3 status bytes =>
    cases h
    exact Or.inr rfl
  case h_5 status =>
    split at h <;> cases h <;> exact Or.inl ⟨rfl, rfl⟩
  case h_10 => cases h
  all_goals
    cases h
    exact Or.inl ⟨rfl, rfl⟩

/-- What a step does to the databases of the two ends. -/
theorem next_db {s s' : State} {l : Label} (h : next session_info s l = some s') :
    s'.provider_db = s.provider_db ∧
      (s'.client_db = s.client_db ∧ transferred l = 0 ∨ s'.client_db =
        ProxySessionsTable.update_data_transfer_info session_info.session_id (transferred l)
          s.client_db) := by
  cases l with
  | accept id method =>
    simp only [next] at h
    split at h
    · obtain rfl := Option.some.inj h
      exact ⟨rfl, Or.inl ⟨rfl, rfl⟩⟩
    · cases h
  | arrive id env =>
    simp only [next] at h
    split at h
    · split at h
      · obtain rfl := Option.some.inj h
        exact ⟨rfl, Or.inl ⟨rfl, rfl⟩⟩
      · cases h
    · cases h
  | provider id event =>
    simp only [next] at h
    split at h
    · obtain ⟨o, -, rfl⟩ := Option.map_eq_some_iff.mp h
      exact ⟨rfl, Or.inl ⟨rfl, rfl⟩⟩
    · cases h
  | client id event =>
    simp only [next] at h
    split at h
    · split at h
      · obtain ⟨⟨ph', db'⟩, hresume, rfl⟩ := Option.map_eq_some_iff.mp h
        exact ⟨rfl, client_resume_db session_info id hresume⟩
      · cases h
    · cases h

theorem next_session_total {s s' : State} {l : Label} (h : next session_info s l = some s') :
    s'.session_total session_info = (s.session_total session_info).map (· + transferred l) := by
  obtain ⟨-, ⟨hdb, hzero⟩ | hdb⟩ := next_db session_info h
  · rw [session_total_of_client_db session_info hdb, hzero]
    simp
  · exact session_total_of_update session_info hdb

theorem next_client_total {s s' : State} {l : Label} (h : next session_info s l = some s') :
    s'.client_total session_info = s.client_total session_info := by
  rw [State.client_total, State.client_total, (next_db session_info h).1]

theorem session_total_run {s s' : State} {x : F64} (h : s.session_total session_info = some x)
    {labels : List Label} (hrun : (system session_info).run s labels = some s') :
    s'.session_total session_info = some (x + (labels.map transferred).sum) := by
  rw [(system session_info).run_map_sum (State.session_total session_info) transferred
    (fun _ _ _ => next_session_total session_info) labels hrun, h]
  rfl

theorem client_total_run {s s' : State} {labels : List Label}
    (hrun : (system session_info).run s labels = some s') :
    s'.client_total session_info = s.client_total session_info :=
  (system session_info).run_invariant
    (J := fun t => t.client_total session_info = s.client_total session_info)
    (fun _ _ _ ht hnext => (next_client_total session_info hnext).trans ht) labels rfl hrun

/-! ## Section 3: Both ends bill the same traffic -/

/-- Once no request is in progress, both ends have the same total. -/
def BillsAgree (s : State) (labels : List Label) : Prop :=
  ∀ s', (system session_info).run s labels = some s' → Quiescent s' →
    s'.session_total session_info = s'.client_total session_info

/-- A body that the client reads to its end is empty. -/
def EmptyBody : Label → Prop
  | .client _ (.body (.ok bytes)) => bytes = []
  | _ => True

theorem transferred_nonneg (l : Label) : 0 ≤ transferred l := by
  unfold transferred ProxyClient.size_kb
  split
  · positivity
  · exact le_refl 0

theorem transferred_eq_zero_iff (l : Label) : transferred l = 0 ↔ EmptyBody l := by
  unfold transferred EmptyBody ProxyClient.size_kb
  split
  · simp
  · simp

/-- **Billing.**  When no request is in progress both ends have the same total
    if and only if no standard response that the client read had a body. -/
theorem billsAgree_iff {s s' : State} (h : Init session_info s) {labels : List Label}
    (hrun : (system session_info).run s labels = some s') (hquiet : Quiescent s') :
    BillsAgree session_info s labels ↔ ∀ l ∈ labels, EmptyBody l := by
  have hsession := session_total_run session_info h.session hrun
  have hclient := (client_total_run session_info hrun).trans h.client
  have hagree : BillsAgree session_info s labels ↔ (labels.map transferred).sum = 0 := by
    constructor
    · intro hagree
      have htotal := hagree s' hrun hquiet
      rw [hsession, hclient, zero_add] at htotal
      exact Option.some.inj htotal
    · intro hzero t ht _
      obtain rfl := Option.some.inj (hrun.symm.trans ht)
      rw [hsession, hclient, hzero, zero_add]
  rw [hagree]
  constructor
  · intro hzero l hl
    -- the amounts are not negative, so none can make up for another
    have hall := List.all_zero_of_le_zero_le_of_sum_eq_zero (l := labels.map transferred)
      (by simp [transferred_nonneg]) hzero (List.mem_map_of_mem hl)
    exact (transferred_eq_zero_iff l).mp hall
  · intro hempty
    refine List.sum_eq_zero fun x hx => ?_
    obtain ⟨l, hl, rfl⟩ := List.mem_map.mp hx
    exact (transferred_eq_zero_iff l).mpr (hempty l hl)

section samples

def sampleClient : ProxyClientInfo :=
  .with_defaults "client" "token" "peer" 0 1

/-- A session and the client row for its token. -/
def sampleState : State where
  client_db := { Database.empty with
    proxy_sessions := .single (ProxyPaymentLoop.sampleSession 0 0) }
  provider_db := { Database.empty with proxy_clients := .single sampleClient }
  requests := fun _ => none

/-- A standard request, answered with the given body. -/
def standardRun (id : ℕ) (bytes : List UInt8) : List Label :=
  [.accept id .standard, .arrive id (.working fun _ => "uuid"),
    .provider id (.response (.ok 200)), .provider id (.body (.ok bytes)),
    .client id (.response (.ok 200)), .client id (.body (.ok bytes))]

/-- A tunnel. -/
def connectRun (id : ℕ) : List Label :=
  [.accept id .CONNECT, .arrive id (.working fun _ => "uuid"), .provider id (.connected (.ok ())),
    .client id (.response (.ok 200)), .client id (.upgraded (.ok ())),
    .provider id (.upgraded (.ok ())), .client id (.closed (.ok (5, 7))),
    .provider id (.closed (.ok (5, 7)))]

theorem init_sampleState : Init (ProxyPaymentLoop.sampleSession 0 0) sampleState :=
  ⟨rfl, rfl, fun _ => rfl⟩

/-- A response without a body and a tunnel are billed alike. -/
theorem billsAgree_connectRun :
    BillsAgree (ProxyPaymentLoop.sampleSession 0 0) sampleState
      (standardRun 0 [] ++ connectRun 1) := by
  have hrun : ∃ s', (system (ProxyPaymentLoop.sampleSession 0 0)).run sampleState
      (standardRun 0 [] ++ connectRun 1) = some s' ∧ Quiescent s' := by
    refine ⟨_, rfl, fun id relay hid => ?_⟩
    match id with
    | 0 | 1 =>
      cases hid
      exact ⟨trivial, fun phase hphase => by cases hphase; trivial⟩
    | id + 2 => cases hid
  obtain ⟨s', hrun, hquiet⟩ := hrun
  refine (billsAgree_iff _ init_sampleState hrun hquiet).mpr ?_
  simp [standardRun, connectRun, EmptyBody]

/-- Three bytes are billed by the client only. -/
theorem not_billsAgree_standardRun :
    Init (ProxyPaymentLoop.sampleSession 0 0) sampleState ∧
      ¬ BillsAgree (ProxyPaymentLoop.sampleSession 0 0) sampleState
        (standardRun 0 [97, 98, 99]) := by
  refine ⟨init_sampleState, fun hagree => ?_⟩
  have hrun : ∃ s', (system (ProxyPaymentLoop.sampleSession 0 0)).run sampleState
      (standardRun 0 [97, 98, 99]) = some s' ∧ Quiescent s' := by
    refine ⟨_, rfl, fun id relay hid => ?_⟩
    match id with
    | 0 =>
      cases hid
      exact ⟨trivial, fun phase hphase => by cases hphase; trivial⟩
    | id + 1 => cases hid
  obtain ⟨s', hrun, hquiet⟩ := hrun
  have htotal := hagree s' hrun hquiet
  rw [session_total_run _ init_sampleState.session hrun, client_total_run _ hrun,
    init_sampleState.client] at htotal
  simp [standardRun, transferred, ProxyClient.size_kb] at htotal

end samples

end Billing

end OrcaNet
