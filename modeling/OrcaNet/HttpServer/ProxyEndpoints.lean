import OrcaNet.Framework.Json
import OrcaNet.HandlerLoop

/-! # Proxy endpoints

    The endpoints of `http_server/endpoints/proxy_endpoints.rs` that start and
    stop the proxy, the lines of the terminal that do the same, and the event
    that `start_orca_node` sends when a mode is configured.  Each of them looks
    at the configuration at most once, sends at most one event to the request
    handler and then answers; `Stage` says how far it has got. -/

namespace OrcaNet

/-- The answer of an endpoint. -/
inductive AppResponse where
  | success (data : Json.Value)
  | error (error : String)

def ProxySessionInfo.from_proxy_connect_response (env : Env) (peer_id client_id auth_token : String)
    (metadata : HTTPProxyMetadata F64) : ProxySessionInfo where
  session_id := env.new_uuid 0
  client_id := client_id
  auth_token := auth_token
  proxy_address := metadata.proxy_address
  start_timestamp := env.get_unix_timestamp
  end_timestamp := none
  data_transferred_kb := 0
  total_fee_sent := 0
  total_fee_sent_unconfirmed := 0
  fee_rate_per_kb := metadata.fee_rate_per_kb
  provider_peer_id := peer_id
  recipient_address := metadata.recipient_address
  status := 1

/-- `fault` is the error of the statement, if it fails. -/
def ProxySessionsTable.insert_session_info (fault : Option String)
    (session_info : ProxySessionInfo) (db : Database) : QueryResult Unit × Database :=
  match fault, db.proxy_sessions.insert session_info with
  | some e, _ => (.error e, db)
  | none, some t => (.ok (), { db with proxy_sessions := t })
  | none, none => (.error "UNIQUE constraint failed: proxy_sessions.session_id", db)

namespace ProxyEndpoints

/-- What may start or stop the proxy. -/
inductive Call where
  /-- `POST /stop`. -/
  | stop
  /-- `POST /connect`. -/
  | connect (peer_id : String)
  /-- `POST /start-providing`. -/
  | start_providing
  /-- `POST /start-client`. -/
  | start_client (session_id : String)
  /-- Lines of the terminal. -/
  | startproxyprovider
  | startproxyclient
  | stopproxy
  /-- The start of the node. -/
  | start_orca_node

/-- The call is a request to the HTTP server. -/
def Call.is_request : Call → Bool
  | .stop | .connect _ | .start_providing | .start_client _ => true
  | _ => false

/-- The call is a line of the terminal. -/
def Call.is_line : Call → Bool
  | .startproxyprovider | .startproxyclient | .stopproxy => true
  | _ => false

/-- What is left to do after an event was sent. -/
structure Rest where
  answer : Option AppResponse
  /-- The text of the `expect` on the result, where there is one. -/
  expects : Option String

inductive Stage where
  | called
  /-- `connect` waits for the provider's response. -/
  | send_request (peer_id : PeerId)
  /-- About to send its event. -/
  | send (event : OrcaNetEvent) (rest : Rest)
  /-- Its event is in the channel, or was taken from it. -/
  | sent (event : OrcaNetEvent) (rest : Rest)
  | finished (answer : Option AppResponse)
  | panicked (message : String)

/-- The end of a call whose event could not be sent. -/
def Rest.fail (rest : Rest) : Stage :=
  match rest.expects with
  | some message => .panicked message
  | none => .finished rest.answer

def stop_proxy (config : Option ProxyMode) : Stage :=
  match config with
  | some _ =>
    .send .StopProxy ⟨some (.success (.string "proxy stopped")), some "Sender not to be dropped"⟩
  | none => .finished (some (.error "Proxy not running"))

/-- `connect` up to its request to the provider. -/
def connect (env : Env) (config : Option ProxyMode) (peer_id : String) : Stage :=
  match config with
  | some _ =>
    .finished (some (.error
      "Proxy already running. Stop it before starting a new client session."))
  | none =>
    match env.parse_peer_id peer_id with
    | some peer_id => .send_request peer_id
    | none => .finished (some (.error "Invalid peer_id"))

/-- What `connect` answers for a session. -/
def connected (session_id : String) : AppResponse :=
  .success (.object [("session_id", .string session_id)])

/-- `connect` from the provider's response on. -/
def connect_response (env : Env) (fault : Option String) (peer_id : String)
    (provide_resp : Except String (OrcaNetResponse F64)) (db : Database) : Stage × Database :=
  match provide_resp with
  | .ok (.HTTPProxyProvideResponse metadata client_id auth_token) =>
    match env.db_fault (.create_sqlite_connection .proxy_sessions) with
    | some _ => (.panicked "Can't proceed without DB connection", db)
    | none =>
      let proxy_session :=
        ProxySessionInfo.from_proxy_connect_response env peer_id client_id auth_token metadata
      match ProxySessionsTable.insert_session_info fault proxy_session db with
      | (.error _, db) => (.panicked "Session info to be added to DB", db)
      | (.ok (), db) =>
        -- the result of the send is not looked at
        (.send (.StartProxy (.ProxyClient proxy_session.session_id))
          ⟨some (connected proxy_session.session_id), none⟩, db)
  | .ok _ | .error _ => (.finished (some (.error "Couldn't connect to proxy")), db)

/-- What `start_providing` and `start_client` share. -/
def start_local (config : Option ProxyMode) (mode : ProxyMode) (message : String) : Stage :=
  match config with
  | some _ => .finished (some (.error "Proxy already running"))
  | none => .send (.StartProxy mode) ⟨some (.success (.string message)), none⟩

def start_providing (config : Option ProxyMode) : Stage :=
  start_local config .ProxyProvider "Started providing proxy"

def start_client (config : Option ProxyMode) (session_id : String) : Stage :=
  start_local config (.ProxyClient session_id) "Started local proxy client"

/-- The arms of `handle_input_line` that send an event look at nothing and say
    nothing. -/
def input_line (event : OrcaNetEvent) : Stage := .send event ⟨none, none⟩

def start_orca_node (config : Option ProxyMode) : Stage :=
  match config with
  | some proxy_mode =>
    .send (.StartProxy proxy_mode) ⟨none, some "Proxy start event to be sent"⟩
  | none => .finished none

/-- A call up to its first wait. -/
def begin_call (env : Env) (config : Option ProxyMode) : Call → Stage
  | .stop => stop_proxy config
  | .connect peer_id => connect env config peer_id
  | .start_providing => start_providing config
  | .start_client session_id => start_client config session_id
  | .startproxyprovider => input_line (.StartProxy .ProxyProvider)
  | .startproxyclient => input_line (.StartProxy (.ProxyClient "sess1"))
  | .stopproxy => input_line .StopProxy
  | .start_orca_node => start_orca_node config

/-! ## What a call sends -/

/-- The event of a call, and what it answers once it is sent. -/
inductive Sends : Call → OrcaNetEvent → Rest → Prop where
  | stop : Sends .stop .StopProxy
      ⟨some (.success (.string "proxy stopped")), some "Sender not to be dropped"⟩
  | connect (peer_id session_id : String) :
      Sends (.connect peer_id) (.StartProxy (.ProxyClient session_id))
        ⟨some (connected session_id), none⟩
  | start_providing : Sends .start_providing (.StartProxy .ProxyProvider)
      ⟨some (.success (.string "Started providing proxy")), none⟩
  | start_client (session_id : String) :
      Sends (.start_client session_id) (.StartProxy (.ProxyClient session_id))
        ⟨some (.success (.string "Started local proxy client")), none⟩
  | line {call : Call} (event : OrcaNetEvent) (h : call.is_line = true) :
      Sends call event ⟨none, none⟩
  | start_orca_node (mode : ProxyMode) : Sends .start_orca_node (.StartProxy mode)
      ⟨none, some "Proxy start event to be sent"⟩

/-- How far a call has got without having sent anything. -/
inductive Begun (call : Call) : Stage → Prop where
  | send_request (peer_id : PeerId) : Begun call (.send_request peer_id)
  | send {event : OrcaNetEvent} {rest : Rest} (h : Sends call event rest) :
      Begun call (.send event rest)
  | refused (error : String) : Begun call (.finished (some (.error error)))
  | silent (h : call.is_request = false) : Begun call (.finished none)
  | panicked (message : String) : Begun call (.panicked message)

theorem begin_call_begun (env : Env) (config : Option ProxyMode) (call : Call) :
    Begun call (begin_call env config call) := by
  cases call with
  | stop =>
    cases config with
    | some mode => exact .send .stop
    | none => exact .refused _
  | connect peer_id =>
    cases config with
    | some mode => exact .refused _
    | none =>
      simp only [begin_call, connect]
      split
      · exact .send_request _
      · exact .refused _
  | start_providing =>
    cases config with
    | some mode => exact .refused _
    | none => exact .send .start_providing
  | start_client session_id =>
    cases config with
    | some mode => exact .refused _
    | none => exact .send (.start_client session_id)
  | start_orca_node =>
    cases config with
    | some mode => exact .send (.start_orca_node mode)
    | none => exact .silent rfl
  -- the terminal does not look at the configuration
  | startproxyprovider => exact .send (.line _ rfl)
  | startproxyclient => exact .send (.line _ rfl)
  | stopproxy => exact .send (.line _ rfl)

theorem connect_response_begun (env : Env) (fault : Option String) (peer_id : String)
    (provide_resp : Except String (OrcaNetResponse F64)) (db : Database) :
    Begun (.connect peer_id) (connect_response env fault peer_id provide_resp db).1 := by
  unfold connect_response
  split
  · split
    · exact .panicked _
    · simp only
      split
      · exact .panicked _
      · exact .send (.connect peer_id _)
  · exact .refused _
  · exact .refused _

end ProxyEndpoints

end OrcaNet
