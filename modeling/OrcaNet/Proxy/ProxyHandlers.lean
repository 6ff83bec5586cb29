import OrcaNet.Db.DbClient
import OrcaNet.Framework.Bincode

/-! # Proxy handlers

    `ProxyProvider` and `ProxyClient` of `proxy/proxy_handlers.rs`: what the
    two ends of a proxy session do with one request.  A standard request is
    forwarded and its response is read to the end; a CONNECT request opens a
    tunnel, and the response to it is sent before the tunnel is used.

    A phase says which call a handler waits for and `resume` runs it to the
    next one.  Database calls of the client succeed, and its token makes a valid
    header. -/

namespace OrcaNet

/-! ## Section 1: Requests and responses -/

inductive Method where
  | CONNECT
  | standard
  deriving DecidableEq, Repr

structure Response where
  status : ℕ
  body : List UInt8
  deriving DecidableEq, Repr

/-- The bytes of the `Proxy-Authorization` header, if there is one. -/
abbrev ProxyAuthorization : Type := Option (List UInt8)

/-- `serde_json` text of an error; none of the messages needs an escape. -/
def OrcaNetError.json : OrcaNetError → String
  | .AuthorizationFailed message => tagged "AuthorizationFailed" (some message)
  | .NotAProvider message => tagged "NotAProvider" (some message)
  | .InternalServerError message => tagged "InternalServerError" (some message)
  | .PaymentReferenceMismatch => tagged "PaymentReferenceMismatch" none
  | .SessionTerminatedByProvider => tagged "SessionTerminatedByProvider" none
where
  tagged (type : String) (message : Option String) : String :=
    match message with
    | some message => "\x7b\"message\":\"" ++ message ++ "\",\"type\":\"" ++ type ++ "\"\x7d"
    | none => "\x7b\"type\":\"" ++ type ++ "\"\x7d"

def bad_request_with_err (err : OrcaNetError) : Response where
  status := 400
  body := ("\x7b\"error\":" ++ err.json ++ "\x7d").toUTF8.toList

/-- The prefix is seven bytes, so the rest starts at a character. -/
def extract_proxy_authtoken (env : Env) (request : ProxyAuthorization) : Except String String :=
  match request with
  | none => .error "Missing authorization header"
  | some auth_header =>
    match env.to_str auth_header with
    | none => .error "Invalid authorization header"
    | some auth_str =>
      if auth_str.toList.take 7 = "Bearer ".toList then
        .ok (String.ofList (auth_str.toList.drop 7))
      else .error "Invalid authorization format - must be Bearer token"

/-! ## Section 2: Provider -/

namespace ProxyProvider

/-- Which call the handler of a request waits for. -/
inductive Phase where
  /-- `http_client.request`. -/
  | request (client_info : ProxyClientInfo)
  /-- `body.collect`. -/
  | collect (client_info : ProxyClientInfo) (status : ℕ)
  /-- `TcpStream::connect`. -/
  | connect (client_info : ProxyClientInfo)
  /-- `hyper::upgrade::on`, in a task of its own. -/
  | upgrade (client_id : String)
  /-- `tunnel_streams`. -/
  | tunnel (client_id : String)
  | ended
  | panicked (message : String)
  deriving DecidableEq, Repr

inductive Event where
  | response (status : Except String ℕ)
  | body (bytes : Except String (List UInt8))
  | connected (tcp_stream : Except String Unit)
  | upgraded (result : Except String Unit)
  /-- The bytes that `custom_copy_bidirectional` counted in each direction. -/
  | closed (transferred : Except String (ℕ × ℕ))

/-- The handler and the tasks that it spawned are done. -/
def Phase.Ended : Phase → Prop
  | .ended | .panicked _ => True
  | _ => False

/-- The next phase, and the response if one is sent.  No handler of the
    provider writes to the database. -/
structure Outcome where
  phase : Phase
  response : Option Response

/-- `none` stands for a panic. -/
def validate_auth_token (env : Env) (request : ProxyAuthorization) (db : Database) :
    Option (Except Response ProxyClientInfo) :=
  match extract_proxy_authtoken env request with
  | .error e => some (.error (bad_request_with_err (.AuthorizationFailed e)))
  | .ok auth_token =>
    match env.db_fault (.create_sqlite_connection .proxy_clients) with
    | some _ => none
    | none =>
      match ProxyClientsTable.get_client_by_auth_token env auth_token db with
      | .error _ => some (.error (bad_request_with_err
          (.AuthorizationFailed "Auth token verification failed")))
      | .ok client_info =>
        match ProxySessionStatus.try_from client_info.status with
        | some .TerminatedByClient => some (.error (bad_request_with_err (.AuthorizationFailed
            "Received auth token for inactive session. Start a new session.")))
        | some .TerminatedByServer =>
          some (.error (bad_request_with_err .SessionTerminatedByProvider))
        -- an unknown status passes
        | _ => some (.ok client_info)

def handle_request (env : Env) (method : Method) (request : ProxyAuthorization) (db : Database) :
    Outcome :=
  match validate_auth_token env request db with
  | none => ⟨.panicked "Can't proceed without DB connection", none⟩
  | some (.error error_response) => ⟨.ended, some error_response⟩
  | some (.ok client_info) =>
    match method with
    | .CONNECT => ⟨.connect client_info, none⟩
    | .standard => ⟨.request client_info, none⟩

/-- The update of the data transferred is commented out, here and when a tunnel closes. -/
def resume : Phase → Event → Option Outcome
  | .request client_info, .response (.ok status) => some ⟨.collect client_info status, none⟩
  | .request _, .response (.error _) =>
    some ⟨.panicked "called `Result::unwrap()` on an `Err` value", none⟩
  | .collect _ status, .body (.ok bytes) => some ⟨.ended, some ⟨status, bytes⟩⟩
  | .collect _ _, .body (.error _) => some ⟨.ended, none⟩
  | .connect client_info, .connected (.ok ()) =>
    some ⟨.upgrade client_info.client_id, some ⟨200, []⟩⟩
  | .connect _, .connected (.error _) => some ⟨.ended, some ⟨502, []⟩⟩
  | .upgrade client_id, .upgraded (.ok ()) => some ⟨.tunnel client_id, none⟩
  | .upgrade _, .upgraded (.error _) => some ⟨.ended, none⟩
  | .tunnel _, .closed _ => some ⟨.ended, none⟩
  | _, _ => none

end ProxyProvider

/-! ## Section 3: Client -/

namespace ProxyClient

inductive Phase where
  /-- `http_client.request`. -/
  | request
  /-- `body.collect`. -/
  | collect (status : ℕ)
  | connect_to_proxy
  /-- `hyper::upgrade::on`, in a task of its own. -/
  | upgrade
  /-- `tunnel_streams`. -/
  | tunnel
  /-- The response went to the application, or the connection was closed. -/
  | ended (response : Option Response)
  | panicked (message : String)
  deriving DecidableEq, Repr

inductive Event where
  /-- The head of the provider's response. -/
  | response (status : Except String ℕ)
  | body (bytes : Except String (List UInt8))
  | upgraded (result : Except String Unit)
  | closed (transferred : Except String (ℕ × ℕ))

/-- The handler and the tasks that it spawned are done. -/
def Phase.Ended : Phase → Prop
  | .ended _ | .panicked _ => True
  | _ => False

def handle_request : Method → Phase
  | .CONNECT => .connect_to_proxy
  | .standard => .request

/-- The header that both kinds of requests are sent with. -/
def authorization (session_info : ProxySessionInfo) : ProxyAuthorization :=
  some (Bincode.utf8 ("Bearer " ++ session_info.auth_token))

def size_kb (bytes : List UInt8) : F64 := bytes.length / 1000

/-- The update of the data transferred is commented out when a tunnel closes. -/
def resume (session_info : ProxySessionInfo) (db : Database) :
    Phase → Event → Option (Phase × Database)
  | .request, .response (.ok status) => some (.collect status, db)
  | .request, .response (.error _) => some (.panicked "Response to be valid", db)
  | .collect status, .body (.ok bytes) =>
    some (.ended (some ⟨status, bytes⟩),
      ProxySessionsTable.update_data_transfer_info session_info.session_id (size_kb bytes) db)
  | .collect _, .body (.error _) => some (.ended none, db)
  | .connect_to_proxy, .response (.ok status) =>
    if status = 200 then some (.upgrade, db) else some (.ended (some ⟨502, []⟩), db)
  | .connect_to_proxy, .response (.error _) => some (.ended (some ⟨502, []⟩), db)
  | .upgrade, .upgraded (.ok ()) => some (.tunnel, db)
  | .upgrade, .upgraded (.error _) => some (.ended none, db)
  | .tunnel, .closed _ => some (.ended none, db)
  | _, _ => none

end ProxyClient

end OrcaNet
