import OrcaNet.Payments.NetworkLedger

/-! # Payments where providers count no data

    The proxy of a provider has its accounting of data commented out, so the
    steps `provider_data` of the network never happen.  A client that counts
    keeps asking what to pay, and the answer is always nothing: the amount comes
    from the provider's own row, whatever the client claims. -/

namespace OrcaNet

open Transition ProxyPaymentLoop

namespace PaymentNetwork

/-- A provider counts data. -/
def counts : Label → Bool
  | .provider_data _ _ _ => true
  | _ => false

/-- The row counts no data and no confirmed payments. -/
def Blank (r : ProxyClientInfo) : Prop := r.data_transferred_kb = 0 ∧ r.total_fee_received = 0

/-- Nobody owes anything or is asked to pay anything. -/
structure NothingOwed (s : State) : Prop where
  rows : ∀ peer, ∀ r ∈ (s.net.node peer).handler.db.proxy_clients.rows, Blank r
  handled : ∀ e ∈ s.net.handled, ∀ c ∈ e.db.proxy_clients.rows, c.get_fee_owed = 0
  asked : ∀ id pr, requested (s.loop id).phase = some pr → pr.amount_to_send = 0
  issued : ∀ i ∈ s.issued, Protocol.amount_transferred i.request = 0

section uncounted

variable {parse : String → Option PeerId} {s s' : State}

theorem get_fee_owed_of_blank {r : ProxyClientInfo} (h : Blank r)
    (hunconfirmed : 0 ≤ r.total_fee_received_unconfirmed) : r.get_fee_owed = 0 := by
  obtain ⟨hdata, hfee⟩ := h
  unfold ProxyClientInfo.get_fee_owed
  rw [hdata, hfee, zero_mul, sub_zero, zero_sub]
  refine max_eq_right (Decimal.roundTo_nonpos_of_lt_half _ ?_)
  have hpos : (0 : F64) < 1 / 2 / 10 ^ OrcaNetConfig.BTC_PRECISION := by positivity
  linarith

/-- No row gets a count of data by a request. -/
theorem blank_of_effect {cfg : OrcaNetConfig} {env : Env} {from_peer : PeerId}
    {db db' : Database} {request : OrcaNetRequest F64} {response : Option (OrcaNetResponse F64)}
    (h : RequestHandlerLoop.Effect cfg env from_peer db request response db')
    (hrows : ∀ r ∈ db.proxy_clients.rows, Blank r) : ∀ r ∈ db'.proxy_clients.rows, Blank r := by
  cases h with
  | inert hresp hclients hpayments =>
    rw [hclients]
    exact hrows
  | provide hinsert =>
    intro r hr
    rw [(Table.insert_eq_some hinsert).2] at hr
    rcases List.mem_append.mp hr with hr | hr
    · exact hrows r hr
    · obtain rfl := List.mem_singleton.mp hr
      exact ⟨rfl, rfl⟩
  | over_threshold hask hover => exact hrows
  | reference hask hwithin hstores hinsert => exact hrows
  | mismatch hask hpay hrow => exact hrows
  | uncredited hconfirm hfault => exact hrows
  | credited hconfirm hcredit =>
    intro r hr
    simp only [RequestHandlerLoop.credit_client, RequestHandlerLoop.confirm_payment,
      Table.mem_update] at hr
    obtain ⟨r', hr', rfl⟩ := hr
    split <;> exact hrows r' hr'

/-- A step of the network. -/
theorem nothingOwed_served (hinv : Inv parse s) (h : NothingOwed s) {net : Requests.State}
    (hserved : Served s.net net) {lp : LoopId → Loop}
    (hphase : ∀ id, (lp id).phase = (s.loop id).phase) {outbox : List Command} :
    NothingOwed { s with net := net, loop := lp, outbox := outbox } := by
  have hasked : ∀ id pr, requested (lp id).phase = some pr → pr.amount_to_send = 0 := by
    intro id pr hpr
    rw [hphase] at hpr
    exact h.asked id pr hpr
  have hrows : ∀ (peer : PeerId) {cfg : OrcaNetConfig} {env : Env} {request : OrcaNetRequest F64}
      {from_peer : PeerId}, (net.node peer).handler.db = RequestHandlerLoop.final
        (RequestHandlerLoop.handle_request cfg env request from_peer
          (s.net.node peer).handler.db) → (∀ p, p ≠ peer → net.node p = s.net.node p) →
      ∀ p, ∀ r ∈ (net.node p).handler.db.proxy_clients.rows, Blank r := by
    intro peer cfg env request from_peer hdb other p r hr
    by_cases hp : p = peer
    · rw [hp, hdb] at hr
      exact blank_of_effect (RequestHandlerLoop.handle_request_effect cfg env from_peer _ request)
        (h.rows peer) r hr
    · rw [other p hp] at hr
      exact h.rows p r hr
  cases hserved with
  | quiet handled tables =>
    refine ⟨fun p r hr => h.rows p r ?_, fun e he => h.handled e (handled ▸ he), hasked, h.issued⟩
    rwa [(tables p).1] at hr
  | stream peer cfg env request from_peer hpay handled hdb other =>
    exact ⟨hrows peer hdb other, fun e he => h.handled e (handled ▸ he), hasked, h.issued⟩
  | request e handled start hdb other =>
    refine ⟨hrows e.peer (start ▸ hdb) other, fun e' he' => ?_, hasked, h.issued⟩
    simp only [handled] at he'
    rcases List.mem_cons.mp he' with rfl | he'
    · -- the rows at that moment counted nothing either
      intro c hc
      rw [← start] at hc
      refine get_fee_owed_of_blank (h.rows _ c hc) ?_
      rw [hinv.accounts.rows _ c hc]
      exact credited_nonneg hinv _ _
    · exact h.handled e' he'

/-- A segment of a loop. -/
theorem nothingOwed_settle (h : NothingOwed s) {id : LoopId} {env : Env} {ev : Event}
    {o : ProxyPaymentLoop.Outcome} (ho : segment parse s id env ev = some o)
    (hamount : ∀ d f pr,
      ev = .pre_payment_result (.ok (.HTTPProxyPrePaymentResponse d f (.Accepted pr))) →
        pr.amount_to_send = 0) : NothingOwed (settle s id o) := by
  have hseg := process_payment_segment ho
  refine ⟨fun p r hr => ?_, h.handled, fun id' pr hpr => ?_, fun i hi => ?_⟩
  · simp only [settle] at hr
    rw [db_proxy_clients_set_db (segment_clients hseg)] at hr
    exact h.rows p r hr
  · by_cases hid : id' = id
    · subst hid
      simp only [settle, Function.update_self] at hpr
      rcases requested_of_segment hseg hpr with hsame | ⟨d, f, hev⟩
      · exact h.asked id' pr hsame
      · exact hamount d f pr hev
    · simp only [settle, Function.update_of_ne hid] at hpr
      exact h.asked id' pr hpr
  · rcases List.mem_append.mp hi with hi | hi
    · obtain ⟨call, hcall, hnotice⟩ := List.mem_filterMap.mp hi
      cases sends_of_segment hseg with
      | quiet hsessions hcalls =>
        cases call with
        | send_request peer request =>
          obtain ⟨client_id, tok, data, fee, rfl⟩ := hcalls peer request hcall
          cases hnotice
        | send_to_address address amount => cases hnotice
      | notifies loc pr n hloc hpr hdb hn hcalls =>
        rw [hcalls] at hcall
        obtain rfl := List.mem_singleton.mp hcall
        obtain rfl := Option.some.inj hnotice
        exact hn.trans (h.asked id pr hpr)
    · exact h.issued i hi

/-- A task writes to its database, and no client row changes. -/
theorem NothingOwed.write (h : NothingOwed s) {peer : PeerId} {db : Database}
    (hclients : db.proxy_clients = (s.net.node peer).handler.db.proxy_clients)
    {opened : List Opened} :
    NothingOwed { s with net := s.net.set_db peer db, opened := opened } := by
  refine ⟨fun p r hr => h.rows p r ?_, h.handled, h.asked, h.issued⟩
  rwa [db_proxy_clients_set_db hclients] at hr

theorem connect_response_clients (c : Requests.Call) (env : Env) (fault : Option String)
    (peer_id : String) (provide_resp : Except String (OrcaNetResponse F64)) (db : Database) :
    (ProxyEndpoints.connect_response env fault peer_id provide_resp db).2.proxy_clients =
      db.proxy_clients := by
  cases hresponse : ProxyEndpoints.connect_response env fault peer_id provide_resp db with
  | mk stage db' =>
    rcases connect_response_cases c env fault peer_id provide_resp db hresponse with
      ⟨rfl, -⟩ | ⟨metadata, client_id, auth_token, t, -, -, -, rfl⟩
    · rfl
    · rfl

theorem nothingOwed_step {l : Label} (hinv : Inv parse s) (h : NothingOwed s)
    (hcounts : counts l = false) (hnext : next parse s l = some s') : NothingOwed s' := by
  cases l with
  | network l =>
    obtain ⟨hpays, hnext⟩ := Option.ite_none_left_eq_some.mp hnext
    obtain ⟨net, hnet, rfl⟩ := Option.map_eq_some_iff.mp hnext
    obtain ⟨-, hstream⟩ := Bool.or_eq_false_iff.mp (Bool.eq_false_iff.mpr hpays)
    exact nothingOwed_served hinv h (next_served hnet hstream) fun _ => rfl
  | connect id env fault peer_id =>
    simp only [next] at hnext
    split at hnext
    · rename_i c hfind
      obtain ⟨-, hnext⟩ := Option.ite_none_right_eq_some.mp hnext
      split at hnext
      · rename_i provide_resp hreceived
        obtain rfl := Option.some.inj hnext
        exact h.write (connect_response_clients c env fault peer_id provide_resp _)
      · cases hnext
    · cases hnext
  | client_data peer session_id kb =>
    obtain rfl := Option.some.inj hnext
    refine h.write ?_
    rfl
  | provider_data peer client_id kb => cases hcounts
  | payment id env ev =>
    obtain ⟨hlocal, hsegment⟩ := Option.ite_none_right_eq_some.mp hnext
    obtain ⟨o, ho, rfl⟩ := Option.map_eq_some_iff.mp hsegment
    refine nothingOwed_settle h ho fun d f pr hev => ?_
    rw [hev] at hlocal
    cases hlocal
  | take_command cmd sender swarm alive env =>
    obtain ⟨hcmd, hnext⟩ := Option.ite_none_right_eq_some.mp hnext
    obtain ⟨net, hnet, rfl⟩ := Option.map_eq_some_iff.mp hnext
    refine nothingOwed_served hinv h (next_served hnet rfl) fun id => ?_
    by_cases hid : id = cmd.loop
    · rw [hid, Function.update_self]
    · rw [Function.update_of_ne hid]
  | answer id env =>
    simp only [next] at hnext
    split at hnext
    · rename_i resp hbind
      obtain ⟨sender, hsender, hreceived⟩ := Option.bind_eq_some_iff.mp hbind
      obtain ⟨o, ho, rfl⟩ := Option.map_eq_some_iff.mp hnext
      refine nothingOwed_settle h ho fun d f pr hev => ?_
      obtain ⟨e, he, c, hc, hamount⟩ := asked_of_answer hinv hsender hreceived hev
      exact hamount.trans (h.handled e he c hc)
    · cases hnext
  | network_gone id =>
    obtain ⟨-, hnext⟩ := Option.ite_none_right_eq_some.mp hnext
    obtain rfl := Option.some.inj hnext
    refine ⟨h.rows, h.handled, fun id' pr hpr => ?_, h.issued⟩
    by_cases hid : id' = id
    · subst hid
      simp only [Function.update_self] at hpr
      cases hpr
    · simp only [Function.update_of_ne hid] at hpr
      exact h.asked id' pr hpr

theorem nothingOwed_of_init (h : Init s) : NothingOwed s := by
  obtain ⟨⟨-, -, -, -, -, hhandled, -, -⟩, hclients, -, hidle, -, hissued, -⟩ := h
  refine ⟨?_, by simp [hhandled], fun id pr hpr => ?_, by simp [hissued]⟩
  · simp [hclients]
  · rw [(hidle id).1] at hpr
    cases hpr

/-- Every total of the network is zero, and no loop has asked or told anybody
    about another amount. -/
structure NothingPaid (s : State) : Prop where
  asked : ∀ id pr, requested (s.loop id).phase = some pr → pr.amount_to_send = 0
  issued : ∀ i ∈ s.issued, Protocol.amount_transferred i.request = 0
  sent : ∀ peer, ∀ x ∈ (s.net.node peer).handler.db.proxy_sessions.rows,
    x.total_fee_sent_unconfirmed = 0
  received : ∀ peer, ∀ r ∈ (s.net.node peer).handler.db.proxy_clients.rows,
    r.total_fee_received_unconfirmed = 0

theorem nothingPaid_of_inv (hinv : Inv parse s) (h : NothingOwed s) : NothingPaid s where
  asked := h.asked
  issued := h.issued
  sent peer x hx := by
    rw [hinv.totals peer x hx]
    refine List.sum_eq_zero fun a ha => ?_
    obtain ⟨i, hi, rfl⟩ := List.mem_map.mp ha
    split
    · exact h.issued i hi
    · rfl
  received peer r hr := by
    rw [hinv.accounts.rows peer r hr]
    refine le_antisymm ((credited_le_issued hinv peer r.auth_token).trans ?_)
      (credited_nonneg hinv peer r.auth_token)
    refine le_of_eq (List.sum_eq_zero fun a ha => ?_)
    obtain ⟨i, hi, rfl⟩ := List.mem_map.mp ha
    have hfair := (hinv.issued i hi).fair
    refine le_antisymm ?_ (due_nonneg hfair peer r.auth_token i.peer)
    unfold due
    split
    · exact (paid_le hfair r.auth_token).trans (le_of_eq (h.issued i hi))
    · exact le_refl 0

/-- **Nothing is paid.**  In every run of any number of nodes and payment loops
    in which no provider counts data, as none does in the source, no loop is ever
    asked to transfer anything but zero, every notification states zero, and all
    totals of sessions and clients stay zero, whatever the clients count. -/
theorem nothing_paid (parse : String → Option PeerId) (s s' : State) (ls : List Label)
    (hinit : Init s) (hcounts : ∀ l ∈ ls, counts l = false)
    (hrun : (system parse).run s ls = some s') : NothingPaid s' := by
  have hall : (system parse).AllSteps (fun _ l _ => counts l = false) s ls :=
    (system parse).allSteps_of_forall (fun _ l hl _ => hcounts l hl) s
  obtain ⟨hinv, howed⟩ := hall.invariant (J := fun s => Inv parse s ∧ NothingOwed s)
    (fun _ _ _ hJ hl hnext => ⟨inv_step hJ.1 hnext, nothingOwed_step hJ.1 hJ.2 hl hnext⟩)
    ⟨inv_of_init hinit, nothingOwed_of_init hinit⟩ hrun
  exact nothingPaid_of_inv hinv howed

end uncounted

/-- Only the client counts, and it notifies the provider of a payment of nothing. -/
def unpaidRun : List Label := sessionRun ++ paymentRun 0

theorem unpaidRun_isSome :
    ((system fun id => some ⟨id⟩).run quietNetwork unpaidRun).isSome := by with_unfolding_all rfl

def unpaidNetwork : State :=
  ((system fun id => some ⟨id⟩).run quietNetwork unpaidRun).get unpaidRun_isSome

theorem nothing_paid_unpaidNetwork :
    NothingPaid unpaidNetwork ∧ unpaidNetwork.issued.length = 1 :=
  ⟨nothing_paid _ quietNetwork unpaidNetwork unpaidRun init_quietNetwork (by decide)
    (Option.some_get unpaidRun_isSome).symm, by with_unfolding_all rfl⟩

end PaymentNetwork

end OrcaNet
