import OrcaNet.Common.Setup
import OrcaNet.Proxy.LifeCycle

/-! # The request handler over its configuration file

    The request handlers as they read the configuration file: value by value,
    each when it is needed, with a panic where a value is missing.
    `HandlerLoop` reads the same values from a record.

    While the file holds the values of the record, the two loops run alike.
    The file that setup leaves lacks one of them, and its loop differs from the
    other exactly where a proxy provider is asked for its address.  (The path of
    the database is read from the file as well; here it is a part of the
    environment.) -/

namespace OrcaNet

open HandlerM OrcaNetConfig Transition

/-- `expect` on a value of the file. -/
def HandlerM.expect {α : Type} (r : Except String α) : HandlerM α :=
  match r with
  | .ok a => pure a
  | .error message => throw (.panic message)

@[simp] theorem HandlerM.expect_ok {α : Type} (a : α) : expect (.ok a) = pure a := rfl

namespace ConfiguredLoop

/-! ## Section 1: Handlers -/

def handle_file_request (file : Json.Value) (env : Env) (request : OrcaNetRequest F64)
    (_from_peer : PeerId) : HandlerM (OrcaNetResponse F64) := do
  let file_id ← match request with
    | .FileMetadataRequest file_id => pure file_id
    | .FileContentRequest file_id => pure file_id
    | _ => throw (.panic "Expected file request")
  create_sqlite_connection env .provided_files
  match ← read (ProvidedFilesTable.get_provided_file_info env file_id) with
  | .error _ =>
    return .Error (.NotAProvider "Not a provider of requested file")
  | .ok file_info =>
    let fee_rate_per_kb ← expect (File.get_file_fee_rate file)
    let recipient_address ← expect (File.get_btc_address file)
    let file_metadata : FileMetadata F64 := {
      file_id := file_id
      file_name := file_info.file_name
      fee_rate_per_kb := fee_rate_per_kb
      recipient_address := recipient_address }
    match request with
    | .FileMetadataRequest _ => return .FileMetadataResponse file_metadata
    | .FileContentRequest _ =>
      let content ← question (env.fs_read file_info.file_path)
      let _ ← write (ProvidedFilesTable.increment_download_count env file_id)
      return .FileContentResponse file_metadata content
    | _ => throw (.panic "Expected file request")

def handle_http_proxy_request (file : Json.Value) (env : Env) (request : OrcaNetRequest F64)
    (from_peer : PeerId) : HandlerM (OrcaNetResponse F64) := do
  match File.get_proxy_config file with
  | some .ProxyProvider =>
    let proxy_address ← expect (File.get_str_from_config .ProxyProviderServerAddress file)
    let fee_rate_per_kb ← expect (File.get_proxy_fee_rate file)
    let recipient_address ← expect (File.get_btc_address file)
    let metadata : HTTPProxyMetadata F64 := {
      proxy_address := proxy_address
      fee_rate_per_kb := fee_rate_per_kb
      recipient_address := recipient_address }
    match request with
    | .HTTPProxyMetadataRequest => return .HTTPProxyMetadataResponse metadata
    | .HTTPProxyProvideRequest =>
      let client_id := env.new_uuid 0
      let auth_token := env.new_uuid 1
      create_sqlite_connection env .proxy_clients
      -- `with_defaults` reads the fee rate again
      let fee_rate_per_kb ← expect (File.get_proxy_fee_rate file)
      let proxy_client_info := ProxyClientInfo.with_defaults client_id auth_token
        from_peer.to_string env.get_unix_timestamp fee_rate_per_kb
      question (← write (ProxyClientsTable.add_client env proxy_client_info))
      return .HTTPProxyProvideResponse metadata client_id auth_token
    | _ => throw (.panic "Expected only proxy requests in handle_proxy_requests")
  | _ => return .Error (.NotAProvider "Not a proxy provider")

/-- The `HTTPProxyPrePaymentRequest` branch of `handle_payment_request`. -/
def handle_pre_payment_request (file : Json.Value) (env : Env) (auth_token : String)
    (data_transferred_kb_client fee_owed_client : F64) (from_peer : PeerId) :
    HandlerM (OrcaNetResponse F64) := do
  create_sqlite_connection env .proxy_clients
  let client_info ← question
    (← read (ProxyClientsTable.get_client_by_auth_token env auth_token))
  let fee_owed := client_info.get_fee_owed
  let fee_owed_percent_diff := Utils.get_percent_diff fee_owed_client fee_owed
  let data_trans_percent_diff :=
    Utils.get_percent_diff data_transferred_kb_client client_info.data_transferred_kb
  let pre_payment_response : PrePaymentResponse F64 ←
    if fee_owed_percent_diff > PROXY_TERMINATION_PD_THRESHOLD
        ∨ data_trans_percent_diff > PROXY_TERMINATION_PD_THRESHOLD then do
      let recipient_address ← expect (File.get_btc_address file)
      pure (.Accepted {
        payment_reference := env.new_uuid 0
        amount_to_send := fee_owed
        recipient_address := recipient_address })
    else if fee_owed_percent_diff > FEE_OWED_PD_ALLOWED then
      pure .RejectedDataTransferDiffers
    else if data_trans_percent_diff > DATA_TRANSFER_PD_ALLOWED then
      pure .RejectedFeeOwedDiffers
    else do
      let payment_reference := env.new_uuid 0
      let btc_address ← expect (File.get_btc_address file)
      let amount_to_send := fee_owed
      create_sqlite_connection env .payments
      let payment_info : PaymentInfo := {
        payment_id := payment_reference
        tx_id := none
        from_address := none
        to_address := btc_address
        expected_amount_btc := some amount_to_send
        amount_btc := none
        category := .Receive
        status := .AwaitingClientConfirmation
        payment_reference := none
        from_peer := some from_peer.to_string
        to_peer := none }
      question (← write (PaymentsTable.insert_payment_info env payment_info))
      let recipient_address ← expect (File.get_btc_address file)
      pure (.Accepted {
        payment_reference := payment_reference
        amount_to_send := amount_to_send
        recipient_address := recipient_address })
  return .HTTPProxyPrePaymentResponse client_info.data_transferred_kb fee_owed
    pre_payment_response

def handle_payment_request (file : Json.Value) (env : Env) (request : OrcaNetRequest F64)
    (from_peer : PeerId) : HandlerM (OrcaNetResponse F64) :=
  match request with
  | .HTTPProxyPrePaymentRequest _ auth_token data_transferred_kb fee_owed =>
    handle_pre_payment_request file env auth_token data_transferred_kb fee_owed from_peer
  -- a notification reads nothing of the file
  | .HTTPProxyPostPaymentNotification _ auth_token payment_notification =>
    RequestHandlerLoop.handle_post_payment_notification env auth_token payment_notification
  | _ => throw (.panic "Expected payment request")

def handle_request (file : Json.Value) (env : Env) (request : OrcaNetRequest F64)
    (from_peer : PeerId) : HandlerM (OrcaNetResponse F64) :=
  match request with
  | .FileMetadataRequest _ | .FileContentRequest _ =>
    handle_file_request file env request from_peer
  | .HTTPProxyMetadataRequest | .HTTPProxyProvideRequest =>
    handle_http_proxy_request file env request from_peer
  | .HTTPProxyPrePaymentRequest .. | .HTTPProxyPostPaymentNotification .. =>
    handle_payment_request file env request from_peer

section refines

variable {file : Json.Value} {cfg : OrcaNetConfig} (h : Holds file cfg)

include h

theorem handle_file_request_eq (env : Env) (request : OrcaNetRequest F64) (from_peer : PeerId) :
    handle_file_request file env request from_peer =
      RequestHandlerLoop.handle_file_request cfg env request from_peer := by
  unfold handle_file_request RequestHandlerLoop.handle_file_request
  simp only [h.file_fee_rate, h.btc_address, expect_ok, pure_bind]
  rfl

theorem handle_payment_request_eq (env : Env) (request : OrcaNetRequest F64)
    (from_peer : PeerId) :
    handle_payment_request file env request from_peer =
      RequestHandlerLoop.handle_payment_request cfg env request from_peer := by
  unfold handle_payment_request RequestHandlerLoop.handle_payment_request
    handle_pre_payment_request RequestHandlerLoop.handle_pre_payment_request
  simp only [h.btc_address, expect_ok, pure_bind]
  rfl

theorem handle_http_proxy_request_eq
    (haddress : File.get_str_from_config .ProxyProviderServerAddress file =
      .ok cfg.ProxyProviderServerAddress)
    (env : Env) (request : OrcaNetRequest F64) (from_peer : PeerId) :
    handle_http_proxy_request file env request from_peer =
      RequestHandlerLoop.handle_http_proxy_request cfg env request from_peer := by
  unfold handle_http_proxy_request RequestHandlerLoop.handle_http_proxy_request
  simp only [h.proxy_config, h.proxy_fee_rate, h.btc_address, haddress, expect_ok, pure_bind]
  rfl

/-- A node that is no provider does not look at the address. -/
theorem handle_http_proxy_request_eq_of_not_provider
    (hmode : cfg.ProxyConfig ≠ some .ProxyProvider) (env : Env) (request : OrcaNetRequest F64)
    (from_peer : PeerId) :
    handle_http_proxy_request file env request from_peer =
      RequestHandlerLoop.handle_http_proxy_request cfg env request from_peer := by
  unfold handle_http_proxy_request RequestHandlerLoop.handle_http_proxy_request
  -- both take the last branch
  simp only [h.proxy_config, get_proxy_config]

/-- A provider without the address panics before it does anything else. -/
theorem handle_http_proxy_request_panic (hmode : cfg.ProxyConfig = some .ProxyProvider)
    {message : String}
    (haddress : File.get_str_from_config .ProxyProviderServerAddress file = .error message)
    (env : Env) (request : OrcaNetRequest F64) (from_peer : PeerId) :
    handle_http_proxy_request file env request from_peer = throw (.panic message) := by
  unfold handle_http_proxy_request
  rw [h.proxy_config, hmode]
  show expect (File.get_str_from_config .ProxyProviderServerAddress file) >>= _ = _
  rw [haddress]
  rfl

end refines

/-! ## Section 2: The loop -/

/-- The end of the segment that handles a request. -/
def answered (s : HandlerLoop) (channel : Option ResponseChannel)
    (res : EStateM.Result Failure Database (OrcaNetResponse F64)) : HandlerLoop.Outcome :=
  let s' := { s with db := RequestHandlerLoop.final res }
  match RequestHandlerLoop.response res, channel with
  | some response, some channel => HandlerLoop.suspend (.respond response channel) s'
  | some response, none => ⟨.next_event, s', some response, [], none⟩
  | none, _ => HandlerLoop.suspend (.panicked "handle_request") s'

/-- The segment over the file.  Other events read `ProxyConfig` only, which `s` holds. -/
def resume (file : Json.Value) (env : HandlerEnv) (s : HandlerLoop) (ph : HandlerLoop.Phase)
    (wake : HandlerLoop.Wake) : Option HandlerLoop.Outcome :=
  match ph.request, wake with
  | some (request, from_peer, channel), .run =>
    some (answered s channel (handle_request file env.toEnv request from_peer s.db))
  | _, _ => HandlerLoop.resume env s ph wake

/-- The request handler with the responses to stream requests, newest first. -/
structure Loop where
  handler : HandlerLoop
  phase : HandlerLoop.Phase
  responses : List (OrcaNetResponse F64)

/-- The loop at the end of a segment. -/
def Loop.suspended (s : Loop) (o : HandlerLoop.Outcome) : Loop :=
  ⟨o.loop, o.phase, o.response.toList ++ s.responses⟩

/-- A segment, with what it draws from outside and what ended the wait before it. -/
abbrev Label : Type := HandlerEnv × HandlerLoop.Wake

/-- The loop that reads its configuration from a record. -/
def loops : System Loop Label where
  init := fun s => s.phase = .next_event
  next := fun s l => (HandlerLoop.resume l.1 s.handler s.phase l.2).map s.suspended

/-- The loop with its configuration file. -/
structure State where
  loop : Loop
  file : Json.Value

/-- The handler with what it reads from the file apart from the requests. -/
def State.reading (s : State) : HandlerLoop :=
  { s.loop.handler with
    config := { s.loop.handler.config with ProxyConfig := File.get_proxy_config s.file } }

def next (s : State) (l : Label) : Option State :=
  (resume s.file l.1 s.reading s.loop.phase l.2).bind fun o =>
    (LifeCycle.write s.file o.written).map fun file => ⟨s.loop.suspended o, file⟩

def system : System State Label where
  init := fun s => s.loop.phase = .next_event
  next := next

theorem resume_request (env : HandlerEnv) (s : HandlerLoop) {ph : HandlerLoop.Phase}
    {request : OrcaNetRequest F64} {from_peer : PeerId} {channel : Option ResponseChannel}
    (h : ph.request = some (request, from_peer, channel)) :
    HandlerLoop.resume env s ph .run = some (answered s channel
      (RequestHandlerLoop.handle_request s.config env.toEnv request from_peer s.db)) := by
  obtain ⟨event, hevent, hrequest⟩ := Option.bind_eq_some_iff.mp h
  obtain rfl : ph = .handle_event event := by
    cases ph <;> simp_all [HandlerLoop.Phase.event]
  cases event <;> cases hrequest <;>
    simp only [HandlerLoop.resume, HandlerLoop.handle_event, answered] <;>
    split <;> simp_all

/-- The record after a segment that wrote to it. -/
def written_to (cfg : OrcaNetConfig) : Option (Option ProxyMode) → OrcaNetConfig
  | some mode => { cfg with ProxyConfig := mode }
  | none => cfg

/-- What a segment writes to the file is what it writes to the record. -/
theorem resume_config {env : HandlerEnv} {s : HandlerLoop} {ph : HandlerLoop.Phase}
    {wake : HandlerLoop.Wake} {o : HandlerLoop.Outcome}
    (h : HandlerLoop.resume env s ph wake = some o) :
    o.loop.config = written_to s.config o.written := by
  have hfinish : ∀ (s' : HandlerLoop) (after : HandlerLoop.After), s'.config = s.config →
      (HandlerLoop.finish env s' after).loop.config =
        written_to s.config (HandlerLoop.finish env s' after).written := by
    intro s' after hs'
    cases after with
    | done => exact hs'
    | modify_config mode =>
      simp only [HandlerLoop.finish]
      split
      · show ({ s'.config with ProxyConfig := mode } : OrcaNetConfig) = _
        rw [hs']
        rfl
      · exact hs'
  unfold HandlerLoop.resume at h
  split at h
  case h_3 event =>
    obtain rfl := Option.some.inj h
    have hhandled := HandlerLoop.handle_event_handled env s event
    generalize HandlerLoop.handle_event env s event = o at hhandled ⊢
    cases hhandled with
    | start_client hsender => exact hfinish _ _ rfl
    | @stop mode hconfig hsender =>
      cases mode with
      | ProxyProvider => rfl
      | ProxyClient session_id => exact hfinish s _ rfl
    | _ => rfl
  case h_6 key after | h_7 sender after =>
    obtain rfl := Option.some.inj h
    exact hfinish s after rfl
  case h_9 server mode =>
    obtain rfl := Option.some.inj h
    cases mode with
    | ProxyProvider => rfl
    | ProxyClient session_id => exact hfinish s _ rfl
  case h_13 => cases h
  all_goals
    obtain rfl := Option.some.inj h
    rfl

/-! ## Section 3: The loops run alike -/

/-- The requests that are answered with the address of the proxy server. -/
def asks_provider : OrcaNetRequest F64 → Bool
  | .HTTPProxyMetadataRequest | .HTTPProxyProvideRequest => true
  | _ => false

/-- The address that a request needs is there. -/
def Served (file : Json.Value) (cfg : OrcaNetConfig) (request : OrcaNetRequest F64) : Prop :=
  asks_provider request = true → cfg.ProxyConfig = some .ProxyProvider →
    File.get_str_from_config .ProxyProviderServerAddress file = .ok cfg.ProxyProviderServerAddress

theorem handle_request_eq {file : Json.Value} {cfg : OrcaNetConfig}
    {request : OrcaNetRequest F64} (h : Holds file cfg) (hserved : Served file cfg request)
    (env : Env) (from_peer : PeerId) :
    handle_request file env request from_peer =
      RequestHandlerLoop.handle_request cfg env request from_peer := by
  have hproxy : asks_provider request = true →
      handle_http_proxy_request file env request from_peer =
        RequestHandlerLoop.handle_http_proxy_request cfg env request from_peer := by
    intro hasks
    by_cases hmode : cfg.ProxyConfig = some .ProxyProvider
    · exact handle_http_proxy_request_eq h (hserved hasks hmode) env request from_peer
    · exact handle_http_proxy_request_eq_of_not_provider h hmode env request from_peer
  cases request with
  | HTTPProxyMetadataRequest => exact hproxy rfl
  | HTTPProxyProvideRequest => exact hproxy rfl
  | _ => simp only [handle_request, RequestHandlerLoop.handle_request, handle_file_request_eq h,
      handle_payment_request_eq h]

theorem reading_eq {s : State} (h : Holds s.file s.loop.handler.config) :
    s.reading = s.loop.handler := by
  unfold State.reading
  rw [h.proxy_config]

/-- `ProxyConfig` is written to the file and to the record. -/
theorem holds_write {file file' : Json.Value} {cfg : OrcaNetConfig} (h : Holds file cfg)
    {written : Option (Option ProxyMode)} (hwrite : LifeCycle.write file written = some file') :
    Holds file' (written_to cfg written) := by
  cases written with
  | none =>
    obtain rfl := Option.some.inj hwrite
    exact h
  | some mode =>
    obtain ⟨hproxy, hothers⟩ := File.get_proxy_config_modify_config hwrite
    have hbtc : file'.get "BTCAddress" = file.get "BTCAddress" := hothers _ (by decide)
    have hfile : file'.get "FileFeeRatePerKB" = file.get "FileFeeRatePerKB" :=
      hothers _ (by decide)
    have hfee : file'.get "ProxyFeeRatePerKB" = file.get "ProxyFeeRatePerKB" :=
      hothers _ (by decide)
    refine ⟨?_, ?_, ?_, hproxy⟩
    · have hold := h.btc_address
      unfold File.get_btc_address File.get_str_from_config File.get_from_config at hold ⊢
      exact hbtc ▸ hold
    · have hold := h.file_fee_rate
      unfold File.get_file_fee_rate File.get_fee_rate File.get_from_config at hold ⊢
      exact hfile ▸ hold
    · have hold := h.proxy_fee_rate
      unfold File.get_proxy_fee_rate File.get_fee_rate File.get_from_config at hold ⊢
      exact hfee ▸ hold

/-- A file with some key is an object, so that it can be written. -/
theorem write_isSome {file : Json.Value} {cfg : OrcaNetConfig} (h : Holds file cfg)
    (written : Option (Option ProxyMode)) : (LifeCycle.write file written).isSome := by
  cases written with
  | none => rfl
  | some mode =>
    have hsome : (file.get ConfigKey.BTCAddress.to_string).isSome := by
      have hold := h.btc_address
      unfold File.get_btc_address File.get_str_from_config File.get_from_config at hold
      cases hget : file.get ConfigKey.BTCAddress.to_string with
      | some value => rfl
      | none =>
        rw [hget] at hold
        cases hold
    exact Json.Value.insert_isSome_of_get hsome _ _

/-- A step that needs no value the file lacks is a step of the other loop. -/
theorem next_eq {s : State} {l : Label} (h : Holds s.file s.loop.handler.config)
    (hserved : ∀ request from_peer channel,
      s.loop.phase.request = some (request, from_peer, channel) → l.2 = .run →
        Served s.file s.loop.handler.config request) :
    (next s l).map State.loop = loops.next s.loop l := by
  have hresume : resume s.file l.1 s.reading s.loop.phase l.2 =
      HandlerLoop.resume l.1 s.loop.handler s.loop.phase l.2 := by
    rw [reading_eq h]
    unfold resume
    split
    · rename_i request from_peer channel hrequest hrun
      rw [hrun, resume_request l.1 s.loop.handler hrequest,
        handle_request_eq h (hserved _ _ _ hrequest hrun)]
    · rfl
  show (Option.bind _ _).map _ = Option.map _ _
  rw [hresume]
  cases HandlerLoop.resume l.1 s.loop.handler s.loop.phase l.2 with
  | none => rfl
  | some o =>
    obtain ⟨file, hfile⟩ := Option.isSome_iff_exists.mp (write_isSome h o.written)
    simp [hfile]

/-! ## Section 4: Runs -/

/-- The file holds the values of the record, and its provider's address. -/
structure Complete (s : State) : Prop where
  holds : Holds s.file s.loop.handler.config
  address : File.get_str_from_config .ProxyProviderServerAddress s.file =
    .ok s.loop.handler.config.ProxyProviderServerAddress

theorem next_eq_some {s s' : State} {l : Label} (h : next s l = some s') :
    ∃ o, resume s.file l.1 s.reading s.loop.phase l.2 = some o ∧
      LifeCycle.write s.file o.written = some s'.file ∧ s'.loop = s.loop.suspended o := by
  obtain ⟨o, ho, h⟩ := Option.bind_eq_some_iff.mp h
  obtain ⟨file, hfile, rfl⟩ := Option.map_eq_some_iff.mp h
  exact ⟨o, ho, hfile, rfl⟩

/-- The segments of both loops write the same configuration. -/
theorem config_of_resume {file : Json.Value} {env : HandlerEnv} {s : HandlerLoop}
    {ph : HandlerLoop.Phase} {wake : HandlerLoop.Wake} {o : HandlerLoop.Outcome}
    (h : resume file env s ph wake = some o) :
    o.loop.config = written_to s.config o.written := by
  unfold resume at h
  split at h
  · obtain rfl := Option.some.inj h
    unfold answered
    split <;> rfl
  · exact resume_config h

theorem holds_step {s s' : State} {l : Label} (hholds : Holds s.file s.loop.handler.config)
    (h : next s l = some s') : Holds s'.file s'.loop.handler.config := by
  obtain ⟨o, ho, hwrite, hloop⟩ := next_eq_some h
  rw [reading_eq hholds] at ho
  have hconfig : s'.loop.handler.config = o.loop.config := by
    rw [hloop]
    rfl
  rw [hconfig, config_of_resume ho]
  exact holds_write hholds hwrite

/-- No segment writes anything but `ProxyConfig`. -/
theorem others_step {s s' : State} {l : Label} (h : next s l = some s') :
    ∀ key ≠ PROXY_CONFIG_KEY, s'.file.get key = s.file.get key := by
  obtain ⟨o, -, hwrite, -⟩ := next_eq_some h
  exact LifeCycle.write_others hwrite

theorem address_step {s s' : State} {l : Label} (h : next s l = some s') :
    File.get_from_config .ProxyProviderServerAddress s'.file =
      File.get_from_config .ProxyProviderServerAddress s.file :=
  others_step h _ (by decide)

/-- Nor does a run. -/
theorem others_run {s t : State} {labels : List Label} (h : system.run s labels = some t) :
    ∀ key ≠ PROXY_CONFIG_KEY, t.file.get key = s.file.get key :=
  system.run_invariant (J := fun u => ∀ key ≠ PROXY_CONFIG_KEY, u.file.get key = s.file.get key)
    (fun _ _ _ hu hnext key hkey => (others_step hnext key hkey).trans (hu key hkey)) labels
    (fun _ _ => rfl) h

theorem complete_step {s s' : State} {l : Label} (hs : Complete s) (h : next s l = some s') :
    Complete s' := by
  refine ⟨holds_step hs.holds h, ?_⟩
  have haddress : s'.loop.handler.config.ProxyProviderServerAddress =
      s.loop.handler.config.ProxyProviderServerAddress := by
    obtain ⟨o, ho, -, hloop⟩ := next_eq_some h
    rw [reading_eq hs.holds] at ho
    have hconfig : s'.loop.handler.config = o.loop.config := by
      rw [hloop]
      rfl
    rw [hconfig, config_of_resume ho]
    cases o.written <;> rfl
  rw [haddress, ← hs.address]
  unfold File.get_str_from_config
  rw [address_step h]

theorem complete_run {s : State} (hs : Complete s) (labels : List Label) :
    (system.run s labels).map State.loop = loops.run s.loop labels ∧
      ∀ t, system.run s labels = some t → Complete t := by
  induction labels generalizing s with
  | nil => exact ⟨rfl, fun t ht => Option.some.inj ht ▸ hs⟩
  | cons l labels ih =>
    have hnext := next_eq hs.holds (l := l) fun _ _ _ _ _ _ _ => hs.address
    cases hstep : next s l with
    | none =>
      rw [hstep] at hnext
      have hnone : system.next s l = none := hstep
      have hnone' : loops.next s.loop l = none := hnext.symm
      simp [hnone, hnone']
    | some s' =>
      rw [hstep] at hnext
      have hsome : system.next s l = some s' := hstep
      have hsome' : loops.next s.loop l = some s'.loop := hnext.symm
      simpa [hsome, hsome'] using ih (complete_step hs hstep)

/-- **The file and the record.**  Over a file with all values the handler runs as
    it does over the record; the file goes on to hold the record's values, and
    all keys but `ProxyConfig` keep the values that they had. -/
theorem run_complete {s : State} (hs : Complete s) (labels : List Label) :
    (system.run s labels).map State.loop = loops.run s.loop labels ∧
      ∀ t, system.run s labels = some t →
        Complete t ∧ ∀ key ≠ PROXY_CONFIG_KEY, t.file.get key = s.file.get key := by
  obtain ⟨halike, hcomplete⟩ := complete_run hs labels
  exact ⟨halike, fun t hrun => ⟨hcomplete t hrun, others_run hrun⟩⟩

section samples

def sampleArgs : SetupArgs := ⟨"orcanet.db", "data", "wallet", "address", some 7⟩

/-- The node as it was set up, when it has become a proxy provider. -/
def startRun : List Label :=
  [(.working, .event (.StartProxy .ProxyProvider)), (.working, .run), (.working, .command_taken),
    (.working, .reply true)]

/-- A peer asks the provider for its address. -/
def askRun : List Label :=
  startRun ++ [(.working, .event (.StreamRequest .HTTPProxyMetadataRequest ⟨"peer"⟩)),
    (.working, .run)]

/-- The handler of the node over the file `fields`. -/
def sampleState (config : OrcaNetConfig) (fields : Json.Map) : State where
  loop := ⟨⟨.empty, config, none, 0⟩, .next_event, []⟩
  file := .object fields

/-- The pairs of setup, in the order of the source. -/
def sampleFields : Json.Map := Json.Map.insert_all default_config (sampleArgs.kv_pair 0)

/-- The same with the address of the proxy server. -/
def addressedState : State :=
  sampleState { sampleArgs.config with ProxyProviderServerAddress := "127.0.0.1:3000" }
    (sampleFields.insert "ProxyProviderServerAddress" (.string "127.0.0.1:3000"))

/-- The provider answers with its address. -/
theorem run_complete_askRun :
    (system.run addressedState askRun).map State.loop = loops.run addressedState.loop askRun ∧
      ∃ t, system.run addressedState askRun = some t ∧ Complete t ∧
        (∀ key ≠ PROXY_CONFIG_KEY, t.file.get key = addressedState.file.get key) ∧
        t.loop.responses =
          [.HTTPProxyMetadataResponse ⟨"127.0.0.1:3000", 25 / 10000, "address"⟩] := by
  have hcomplete : Complete addressedState := ⟨⟨rfl, rfl, rfl, rfl⟩, rfl⟩
  obtain ⟨heq, hkeep⟩ := run_complete hcomplete askRun
  refine ⟨heq, ?_⟩
  have hrun : ∃ t, system.run addressedState askRun = some t ∧ t.loop.responses =
      [.HTTPProxyMetadataResponse ⟨"127.0.0.1:3000", 25 / 10000, "address"⟩] := ⟨_, rfl, rfl⟩
  obtain ⟨t, hrun, hresponses⟩ := hrun
  exact ⟨t, hrun, (hkeep t hrun).1, (hkeep t hrun).2, hresponses⟩

end samples

/-- A provider is asked for its address. -/
def Barred (s : State) (l : Label) : Prop :=
  l.2 = .run ∧ File.get_proxy_config s.file = some .ProxyProvider ∧
    ∃ request from_peer channel, s.loop.phase.request = some (request, from_peer, channel) ∧
      asks_provider request = true

/-- Nobody has become a client. -/
def NoNewClients (db db' : Database) : Prop :=
  ∀ c ∈ db'.proxy_clients.rows, ∃ c' ∈ db.proxy_clients.rows, c'.client_id = c.client_id

/-- A step over the file that setup leaves. -/
structure SetUpStep (s : State) (l : Label) (s' : State) : Prop where
  alike : ¬ Barred s l → loops.next s.loop l = some s'.loop
  panicked : Barred s l → s'.loop = { s.loop with phase := .panicked "handle_request" }
  clients : NoNewClients s.loop.handler.db s'.loop.handler.db

theorem panicked_of_barred {s s' : State} {l : Label}
    (hholds : Holds s.file s.loop.handler.config)
    (haddress : File.get_from_config .ProxyProviderServerAddress s.file = none)
    (hbarred : Barred s l) (h : next s l = some s') :
    s'.loop = { s.loop with phase := .panicked "handle_request" } := by
  obtain ⟨hrun, hmode, request, from_peer, channel, hrequest, hasks⟩ := hbarred
  obtain ⟨o, ho, -, hloop⟩ := next_eq_some h
  have herror : ∃ message,
      File.get_str_from_config .ProxyProviderServerAddress s.file = .error message := by
    unfold File.get_str_from_config
    rw [haddress]
    exact ⟨_, rfl⟩
  obtain ⟨message, hmessage⟩ := herror
  have hpanic := handle_http_proxy_request_panic hholds (hholds.proxy_config.symm.trans hmode)
    hmessage l.1.toEnv request from_peer
  have hhandle : handle_request s.file l.1.toEnv request from_peer = throw (.panic message) := by
    cases request with
    | HTTPProxyMetadataRequest => exact hpanic
    | HTTPProxyProvideRequest => exact hpanic
    | _ => cases hasks
  rw [reading_eq hholds] at ho
  unfold resume at ho
  rw [hrequest, hrun] at ho
  obtain rfl := Option.some.inj ho
  rw [hloop, hhandle]
  rfl

theorem NoNewClients.of_eq {db db' : Database} (h : db'.proxy_clients = db.proxy_clients) :
    NoNewClients db db' :=
  fun c hc => ⟨c, h ▸ hc, rfl⟩

theorem NoNewClients.trans {db db' db'' : Database} (h : NoNewClients db db')
    (h' : NoNewClients db' db'') : NoNewClients db db'' := by
  intro c hc
  obtain ⟨c', hc', heq⟩ := h' c hc
  obtain ⟨c'', hc'', heq'⟩ := h c' hc'
  exact ⟨c'', hc'', heq'.trans heq⟩

/-- Only a provider takes new clients. -/
theorem noNewClients_handle_request {cfg : OrcaNetConfig} {request : OrcaNetRequest F64}
    (hmode : asks_provider request = true → cfg.ProxyConfig ≠ some .ProxyProvider) (env : Env)
    (from_peer : PeerId) (db : Database) :
    NoNewClients db (RequestHandlerLoop.final
      (RequestHandlerLoop.handle_request cfg env request from_peer db)) := by
  by_cases hasks : asks_provider request = true
  · have hrefused : RequestHandlerLoop.handle_http_proxy_request cfg env request from_peer db =
        .ok (.Error (.NotAProvider "Not a proxy provider")) db := by
      have hnot := hmode hasks
      simp only [RequestHandlerLoop.handle_http_proxy_request, get_proxy_config]
      rfl
    have hhandle : RequestHandlerLoop.handle_request cfg env request from_peer db =
        .ok (.Error (.NotAProvider "Not a proxy provider")) db := by
      cases request with
      | HTTPProxyMetadataRequest => exact hrefused
      | HTTPProxyProvideRequest => exact hrefused
      | _ => cases hasks
    rw [hhandle]
    exact .of_eq rfl
  · have heffect := RequestHandlerLoop.handle_request_effect cfg env from_peer db request
    generalize RequestHandlerLoop.final _ = db' at heffect ⊢
    generalize RequestHandlerLoop.response _ = resp at heffect
    cases heffect with
    | inert hresp hclients hpayments => exact .of_eq hclients
    | provide hinsert => exact absurd rfl hasks
    | credited hconfirm hcredit =>
      -- the credit keeps the keys of all rows
      intro c hc
      simp only [RequestHandlerLoop.credit_client, Table.mem_update] at hc
      obtain ⟨r, hr, rfl⟩ := hc
      refine ⟨r, hr, ?_⟩
      split <;> rfl
    | _ => exact .of_eq rfl

theorem noNewClients_of_alike {s s' : State} {l : Label}
    (hholds : Holds s.file s.loop.handler.config) (hbarred : ¬ Barred s l)
    (h : loops.next s.loop l = some s'.loop) :
    NoNewClients s.loop.handler.db s'.loop.handler.db := by
  obtain ⟨o, ho, hloop⟩ := Option.map_eq_some_iff.mp h
  rw [← hloop]
  show NoNewClients _ o.loop.db
  obtain hdb | ⟨event, hph, hrun, rfl⟩ := HandlerLoop.resume_db ho
  · exact .of_eq (congrArg _ hdb)
  · cases hrequest : HandlerLoop.request_of event with
    | none =>
      obtain ⟨files, hdb⟩ := HandlerLoop.handle_event_files l.1 s.loop.handler hrequest
      exact .of_eq (by rw [hdb])
    | some r =>
      obtain ⟨request, from_peer, channel⟩ := r
      rw [HandlerLoop.handle_event_request hrequest]
      refine noNewClients_handle_request (fun hasks hmode => ?_) _ _ _
      refine hbarred ⟨hrun, hholds.proxy_config.trans hmode, request, from_peer, channel, ?_, hasks⟩
      rw [HandlerLoop.Phase.request, hph]
      exact hrequest

/-- The file holds the values of the record, but no address. -/
structure WithoutAddress (s : State) : Prop where
  holds : Holds s.file s.loop.handler.config
  address : File.get_from_config .ProxyProviderServerAddress s.file = none

theorem withoutAddress_step {s s' : State} {l : Label} (hs : WithoutAddress s)
    (h : next s l = some s') : WithoutAddress s' where
  holds := holds_step hs.holds h
  address := (address_step h).trans hs.address

theorem setUpStep {s s' : State} {l : Label} (hs : WithoutAddress s) (h : next s l = some s') :
    SetUpStep s l s' := by
  have halike : ¬ Barred s l → loops.next s.loop l = some s'.loop := by
    intro hbarred
    rw [← next_eq hs.holds, h]
    · rfl
    · intro request from_peer channel hrequest hrun hasks hmode
      exact absurd ⟨hrun, hs.holds.proxy_config.trans hmode, _, _, _, hrequest, hasks⟩ hbarred
  have hpanicked := fun hbarred => panicked_of_barred hs.holds hs.address hbarred h
  refine ⟨halike, hpanicked, ?_⟩
  by_cases hbarred : Barred s l
  · rw [hpanicked hbarred]
    exact .of_eq rfl
  · exact noNewClients_of_alike hs.holds hbarred (halike hbarred)

/-- **A node that was set up.**  Over the file that setup leaves, whatever the
    order of its pairs, the handler runs as it does over the record, except that
    it panics where a proxy provider is asked for its address: so the node never
    gets a client. -/
theorem setUpStep_of_setup {setup_args : SetupArgs} {random : UInt64}
    {kv_pair : List (String × Json.Value)} (hperm : kv_pair.Perm (setup_args.kv_pair random))
    {s : State} (hfile : setup_config_file kv_pair = some s.file)
    (hrecord : s.loop.handler.config = setup_args.config) (labels : List Label) :
    system.AllSteps SetUpStep s labels ∧
      ∀ t, system.run s labels = some t → NoNewClients s.loop.handler.db t.loop.handler.db := by
  have hstart : WithoutAddress s := by
    refine ⟨?_, address_setup_config_file hperm hfile⟩
    rw [hrecord]
    exact holds_setup_config_file hperm hfile
  constructor
  · exact system.allSteps_of_invariant
      (fun u l u' hu hnext => ⟨withoutAddress_step hu hnext, setUpStep hu hnext⟩) labels hstart
  · intro t hrun
    have hend := system.run_invariant
      (J := fun u => WithoutAddress u ∧ NoNewClients s.loop.handler.db u.loop.handler.db)
      (fun u l u' hu hnext => ⟨withoutAddress_step hu.1 hnext,
        hu.2.trans (setUpStep hu.1 hnext).clients⟩) labels ⟨hstart, .of_eq rfl⟩ hrun
    exact hend.2

/-- The request ends the handler of a node that was set up. -/
theorem setUpStep_of_setup_askRun :
    ∃ t, system.run (sampleState sampleArgs.config sampleFields) askRun = some t ∧
      NoNewClients .empty t.loop.handler.db ∧
      t.loop.phase = .panicked "handle_request" := by
  obtain ⟨-, hclients⟩ := @setUpStep_of_setup sampleArgs 0 _ (.refl _)
    (sampleState sampleArgs.config sampleFields) rfl rfl askRun
  have hrun : ∃ t, system.run (sampleState sampleArgs.config sampleFields) askRun = some t ∧
      t.loop.phase = .panicked "handle_request" := ⟨_, rfl, rfl⟩
  obtain ⟨t, hrun, hphase⟩ := hrun
  exact ⟨t, hrun, hclients t hrun, hphase⟩

end ConfiguredLoop

end OrcaNet
