import OrcaNet.Network.EventLoop
import OrcaNet.RequestHandler

/-! # Request handler loop

    `RequestHandlerLoop::run` and `handle_event` of `request_handler.rs`: the
    loop takes one event at a time from its channel and handles it.  Requests
    are answered by the handlers of `RequestHandler`; the local events change
    which files and proxies the node provides.

    As for the network loop, `Phase` says where the loop is suspended and
    `resume` runs it to its next suspension. -/

namespace OrcaNet

open OrcaNetConfig

/-- The sender of a `StreamRequest` stays with the network loop, which waits for
    the response. -/
inductive OrcaNetEvent where
  | Request (request : OrcaNetRequest F64) (from_peer : PeerId) (channel : ResponseChannel)
  | StreamRequest (request : OrcaNetRequest F64) (from_peer : PeerId)
  | ProvideFile (file_id file_path : String)
  | StopProvidingFile (file_id : String) (permanent : Bool)
  | StartProxy (mode : ProxyMode)
  | StopProxy

/-- A proxy server task that was started. -/
abbrev ProxyServer : Type := ℕ

/-- What one segment draws from outside, beyond the database calls. -/
structure HandlerEnv extends Env where
  path_exists : String → Bool
  /-- The file name of a path, when it has a valid one. -/
  get_file_name_from_path : String → Option String
  /-- The result of writing the configuration file. -/
  write_config : Except String Unit
  /-- The sender of the oneshot channel that a `NetworkClient` call makes. -/
  new_oneshot : Sender

/-- An environment in which every call works. -/
def HandlerEnv.working : HandlerEnv where
  toEnv := .working fun _ => "uuid"
  path_exists := fun _ => true
  get_file_name_from_path := fun path => some path
  write_config := .ok ()
  new_oneshot := 0

/-- The same when every file that is read has the content. -/
def HandlerEnv.reading (content : List UInt8) : HandlerEnv :=
  { HandlerEnv.working with
    toEnv := { HandlerEnv.working.toEnv with fs_read := fun _ => .ok content } }

/-- The loop's own data, and the database and configuration it works on. -/
structure HandlerLoop where
  db : Database
  config : OrcaNetConfig
  proxy_event_sender : Option ProxyServer
  /-- The proxy servers spawned so far. -/
  spawned : ℕ

namespace HandlerLoop

/-- What an event still has to do after its last call to the network. -/
inductive After where
  | done
  | modify_config (mode : Option ProxyMode)
  deriving DecidableEq

/-- Where the loop is suspended. -/
inductive Phase where
  | next_event
  /-- The event was taken; its handler runs. -/
  | handle_event (event : OrcaNetEvent)
  /-- `NetworkClient::respond`. -/
  | respond (response : OrcaNetResponse F64) (channel : ResponseChannel)
  /-- `NetworkClient::start_providing`: sending the command. -/
  | start_providing (key : String) (sender : Sender) (after : After)
  /-- `NetworkClient::start_providing`: waiting for the reply. -/
  | start_providing_reply (sender : Sender) (after : After)
  /-- `NetworkClient::stop_providing`. -/
  | stop_providing (key : String) (after : After)
  /-- `send_event_to_proxy_server`. -/
  | send_proxy_event (server : ProxyServer) (mode : ProxyMode)
  | panicked (message : String)

/-- What ends a wait. -/
inductive Wake where
  | event (event : OrcaNetEvent)
  | events_closed
  /-- The handler of the event runs on. -/
  | run
  | command_taken
  /-- The reply of `start_providing`, or its sender dropped. -/
  | reply (provided : Bool)
  | proxy_event_sent
  /-- The network loop is gone. -/
  | command_receiver_dropped

/-- Where a segment ends: the next suspension, the data, the response that was
    sent to the network loop, the proxy servers that were spawned, and the value
    of `ProxyConfig` that was written to the configuration file. -/
structure Outcome where
  phase : Phase
  loop : HandlerLoop
  response : Option (OrcaNetResponse F64)
  spawn : List (ProxyServer × ProxyMode)
  written : Option (Option ProxyMode)

/-- A segment that sends no response, starts no server and writes no file. -/
def suspend (phase : Phase) (loop : HandlerLoop) : Outcome := ⟨phase, loop, none, [], none⟩

/-- The rest of an event after its calls to the network. -/
def finish (env : HandlerEnv) (s : HandlerLoop) : After → Outcome
  | .done => suspend .next_event s
  | .modify_config mode =>
    match env.write_config with
    | .ok () =>
      { suspend .next_event { s with config := { s.config with ProxyConfig := mode } } with
        written := some mode }
    | .error _ => suspend (.panicked "Proxy configuration to be updated") s

/-- `SomeTable::new` and one statement, whose result is only logged. -/
def with_provided_files (env : HandlerEnv) (s : HandlerLoop)
    (statement : Database → QueryResult Unit × Database) (next : HandlerLoop → Outcome) : Outcome :=
  match env.db_fault (.create_sqlite_connection .provided_files) with
  | some _ => suspend (.panicked "Can't proceed without DB connection") s
  | none => next { s with db := (statement s.db).2 }

/-- The rest of `StopProxy` after the proxy server was told. -/
def stop_proxy (env : HandlerEnv) (s : HandlerLoop) : ProxyMode → Outcome
  | .ProxyProvider =>
    suspend (.stop_providing PROXY_PROVIDER_KEY_DHT (.modify_config none)) s
  | .ProxyClient _ => finish env s (.modify_config none)

def handle_event (env : HandlerEnv) (s : HandlerLoop) : OrcaNetEvent → Outcome
  | .Request request from_peer channel =>
    let res := RequestHandlerLoop.handle_request s.config env.toEnv request from_peer s.db
    match RequestHandlerLoop.response res with
    | some response =>
      suspend (.respond response channel) { s with db := RequestHandlerLoop.final res }
    | none => suspend (.panicked "handle_request") { s with db := RequestHandlerLoop.final res }
  | .StreamRequest request from_peer =>
    let res := RequestHandlerLoop.handle_request s.config env.toEnv request from_peer s.db
    match RequestHandlerLoop.response res with
    | some response =>
      ⟨.next_event, { s with db := RequestHandlerLoop.final res }, some response, [], none⟩
    | none => suspend (.panicked "handle_request") { s with db := RequestHandlerLoop.final res }
  | .ProvideFile file_id file_path =>
    match env.get_file_name_from_path file_path with
    | none => suspend (.panicked "called `Option::unwrap()` on a `None` value") s
    | some file_name =>
      if env.path_exists file_path then
        let file_info :=
          ProvidedFileInfo.with_defaults file_id file_path file_name env.get_unix_timestamp
        match env.db_fault (.create_sqlite_connection .provided_files) with
        | some _ => suspend (.panicked "Can't proceed without DB connection") s
        | none =>
          match ProvidedFilesTable.insert_provided_file env.toEnv file_info s.db with
          | (.ok (), db) =>
            suspend (.start_providing file_id env.new_oneshot .done) { s with db := db }
          | (.error _, db) => suspend .next_event { s with db := db }
      else suspend .next_event s
  | .StopProvidingFile file_id permanent =>
    let statement :=
      if permanent then ProvidedFilesTable.remove_provided_file env.toEnv file_id
      else ProvidedFilesTable.set_provided_file_status env.toEnv file_id false none
    with_provided_files env s statement fun s => suspend (.stop_providing file_id .done) s
  | .StartProxy mode =>
    match s.proxy_event_sender with
    | some _ => suspend .next_event s
    | none =>
      let s' := { s with proxy_event_sender := some s.spawned, spawned := s.spawned + 1 }
      let outcome := match mode with
        | .ProxyProvider =>
          suspend (.start_providing PROXY_PROVIDER_KEY_DHT env.new_oneshot
            (.modify_config (some mode))) s'
        | .ProxyClient _ => finish env s' (.modify_config (some mode))
      { outcome with spawn := [(s.spawned, mode)] }
  | .StopProxy =>
    match s.config.get_proxy_config with
    | none => suspend (.panicked "Proxy mode to be present in config") s
    | some mode =>
      match s.proxy_event_sender with
      | some server =>
        suspend (.send_proxy_event server mode) { s with proxy_event_sender := none }
      | none => stop_proxy env s mode

/-- One segment: from the end of a wait to the next suspension. -/
def resume (env : HandlerEnv) (s : HandlerLoop) : Phase → Wake → Option Outcome
  | .next_event, .event event => some (suspend (.handle_event event) s)
  | .next_event, .events_closed => some (suspend (.panicked "Not implemented") s)
  | .handle_event event, .run => some (handle_event env s event)
  | .respond _ _, .command_taken => some (suspend .next_event s)
  | .start_providing _ sender after, .command_taken =>
    some (suspend (.start_providing_reply sender after) s)
  | .stop_providing _ after, .command_taken => some (finish env s after)
  | .start_providing_reply _ after, .reply true => some (finish env s after)
  | .start_providing_reply _ _, .reply false =>
    some (suspend (.panicked "Sender not to be dropped.") s)
  -- a proxy server that is gone is only logged
  | .send_proxy_event _ mode, .proxy_event_sent => some (stop_proxy env s mode)
  | .respond _ _, .command_receiver_dropped
  | .start_providing _ _ _, .command_receiver_dropped
  | .stop_providing _ _, .command_receiver_dropped =>
    some (suspend (.panicked "Command receiver not to be dropped.") s)
  | _, _ => none

/-- The command that the loop is sending. -/
def command : Phase → Option NetworkCommand
  | .respond response channel => some (.Respond response channel)
  | .start_providing key sender _ => some (.StartProviding key sender)
  | .stop_providing key _ => some (.StopProviding key)
  | _ => none

/-! ## Where a segment ends -/

/-- The event that is being handled. -/
def Phase.event : Phase → Option OrcaNetEvent
  | .handle_event event => some event
  | _ => none

/-- The sender of the oneshot channel of a `start_providing`. -/
def Phase.sender : Phase → Option Sender
  | .start_providing _ sender _ => some sender
  | .start_providing_reply sender _ => some sender
  | _ => none

/-- Everything that the first segment of an event can do: which phase it ends in,
    and what it has changed apart from the database. -/
inductive Handled (env : HandlerEnv) (s : HandlerLoop) : OrcaNetEvent → Outcome → Prop where
  | panicked {event} (message : String) (db : Database) :
      Handled env s event (suspend (.panicked message) { s with db := db })
  | respond {request from_peer channel} (response : OrcaNetResponse F64) (db : Database) :
      Handled env s (.Request request from_peer channel)
        (suspend (.respond response channel) { s with db := db })
  | response {request from_peer} (response : OrcaNetResponse F64) (db : Database) :
      Handled env s (.StreamRequest request from_peer)
        ⟨.next_event, { s with db := db }, some response, [], none⟩
  | start_providing {file_id file_path} (db : Database) :
      Handled env s (.ProvideFile file_id file_path)
        (suspend (.start_providing file_id env.new_oneshot .done) { s with db := db })
  /-- The path does not exist, or the table refuses the row. -/
  | not_provided {file_id file_path} (db : Database) :
      Handled env s (.ProvideFile file_id file_path) (suspend .next_event { s with db := db })
  | stop_providing {file_id permanent} (db : Database) :
      Handled env s (.StopProvidingFile file_id permanent)
        (suspend (.stop_providing file_id .done) { s with db := db })
  | running {mode} (server : ProxyServer) (hsender : s.proxy_event_sender = some server) :
      Handled env s (.StartProxy mode) (suspend .next_event s)
  | start_provider (hsender : s.proxy_event_sender = none) :
      Handled env s (.StartProxy .ProxyProvider)
        { suspend (.start_providing PROXY_PROVIDER_KEY_DHT env.new_oneshot
            (.modify_config (some .ProxyProvider)))
            { s with proxy_event_sender := some s.spawned, spawned := s.spawned + 1 } with
          spawn := [(s.spawned, .ProxyProvider)] }
  | start_client {session_id} (hsender : s.proxy_event_sender = none) :
      Handled env s (.StartProxy (.ProxyClient session_id))
        { finish env { s with proxy_event_sender := some s.spawned, spawned := s.spawned + 1 }
            (.modify_config (some (.ProxyClient session_id))) with
          spawn := [(s.spawned, .ProxyClient session_id)] }
  | tell {mode} (server : ProxyServer) (hconfig : s.config.get_proxy_config = some mode)
      (hsender : s.proxy_event_sender = some server) :
      Handled env s .StopProxy
        (suspend (.send_proxy_event server mode) { s with proxy_event_sender := none })
  | stop {mode} (hconfig : s.config.get_proxy_config = some mode)
      (hsender : s.proxy_event_sender = none) : Handled env s .StopProxy (stop_proxy env s mode)

theorem handle_event_handled (env : HandlerEnv) (s : HandlerLoop) (event : OrcaNetEvent) :
    Handled env s event (handle_event env s event) := by
  cases event with
  | Request request from_peer channel =>
    simp only [handle_event]
    split
    · exact .respond _ _
    · exact .panicked _ _
  | StreamRequest request from_peer =>
    simp only [handle_event]
    split
    · exact .response _ _
    · exact .panicked _ _
  | ProvideFile file_id file_path =>
    simp only [handle_event]
    split
    · exact .panicked _ s.db
    · split
      · split
        · exact .panicked _ s.db
        · split
          · -- the row was inserted
            exact .start_providing _
          · exact .not_provided _
      · exact .not_provided s.db
  | StopProvidingFile file_id permanent =>
    simp only [handle_event, with_provided_files]
    split
    · exact .panicked _ s.db
    · exact .stop_providing _
  | StartProxy mode =>
    simp only [handle_event]
    split
    · rename_i server hsender
      exact .running server hsender
    · rename_i hsender
      cases mode with
      | ProxyProvider => exact .start_provider hsender
      | ProxyClient session_id => exact .start_client hsender
  | StopProxy =>
    simp only [handle_event]
    split
    · exact .panicked _ s.db
    · -- a server is told to stop first
      rename_i mode hconfig
      split
      · rename_i server hsender
        exact .tell server hconfig hsender
      · rename_i hsender
        exact .stop hconfig hsender

theorem finish_phase (env : HandlerEnv) (s : HandlerLoop) (after : After) :
    (finish env s after).phase.event = none ∧ (finish env s after).phase.sender = none := by
  cases after with
  | done => exact ⟨rfl, rfl⟩
  | modify_config mode =>
    simp only [finish]
    split <;> exact ⟨rfl, rfl⟩

theorem stop_proxy_phase (env : HandlerEnv) (s : HandlerLoop) (mode : ProxyMode) :
    (stop_proxy env s mode).phase.event = none ∧ (stop_proxy env s mode).phase.sender = none := by
  cases mode with
  | ProxyProvider => exact ⟨rfl, rfl⟩
  | ProxyClient session_id => exact finish_phase env s _

theorem command_taken_phase {env : HandlerEnv} {s : HandlerLoop} {ph : Phase} {o : Outcome}
    (h : resume env s ph .command_taken = some o) :
    o.phase.event = none ∧ ∀ sender ∈ o.phase.sender, ph.sender = some sender := by
  cases ph with
  | respond response channel =>
    obtain rfl := Option.some.inj h
    exact ⟨rfl, by simp [suspend, Phase.sender]⟩
  | start_providing key sender after =>
    obtain rfl := Option.some.inj h
    exact ⟨rfl, fun _ hsender => hsender⟩
  | stop_providing key after =>
    obtain rfl := Option.some.inj h
    exact ⟨(finish_phase env s after).1, by simp [(finish_phase env s after).2]⟩
  | _ => cases h

/-- An event is handled in one segment up to its first call, which uses the
    oneshot channel of that segment. -/
theorem handle_event_phase (env : HandlerEnv) (s : HandlerLoop) (event : OrcaNetEvent) :
    (handle_event env s event).phase.event = none ∧
      ∀ sender ∈ (handle_event env s event).phase.sender, sender = env.new_oneshot := by
  have h := handle_event_handled env s event
  generalize handle_event env s event = o at h ⊢
  cases h with
  | start_client hsender =>
    have hphase := finish_phase env
      { s with proxy_event_sender := some s.spawned, spawned := s.spawned + 1 }
    exact ⟨(hphase _).1, by simp [hphase]⟩
  | stop hconfig hsender =>
    obtain ⟨hevent, hsender⟩ := stop_proxy_phase env s _
    exact ⟨hevent, by simp [hsender]⟩
  | _ => exact ⟨rfl, by simp [suspend, Phase.sender]⟩

/-- An event that is about to be handled was just taken. -/
theorem resume_event {env : HandlerEnv} {s : HandlerLoop} {ph : Phase} {wake : Wake} {o : Outcome}
    (h : resume env s ph wake = some o) {event : OrcaNetEvent} (hev : o.phase.event = some event) :
    ph = .next_event ∧ wake = .event event := by
  unfold resume at h
  split at h
  case h_1 event' =>
    obtain rfl := Option.some.inj h
    obtain rfl := Option.some.inj hev
    exact ⟨rfl, rfl⟩
  -- handling an event, finishing and stopping lead to other phases
  case h_3 event' =>
    obtain rfl := Option.some.inj h
    rw [(handle_event_phase env s event').1] at hev
    cases hev
  case h_6 key after | h_7 key after =>
    obtain rfl := Option.some.inj h
    rw [(finish_phase env s after).1] at hev
    cases hev
  case h_9 server mode =>
    obtain rfl := Option.some.inj h
    rw [(stop_proxy_phase env s mode).1] at hev
    cases hev
  case h_13 => cases h
  all_goals
    obtain rfl := Option.some.inj h
    cases hev

/-- The proxy server that is being told to stop. -/
def Phase.server : Phase → Option ProxyServer
  | .send_proxy_event server _ => some server
  | _ => none

/-- Everything that a segment can do about the proxy servers. -/
inductive ProxyMove (s : HandlerLoop) (o : Outcome) : Prop where
  | start (mode : ProxyMode) (hsender : s.proxy_event_sender = none)
      (hsender' : o.loop.proxy_event_sender = some s.spawned)
      (hspawned : o.loop.spawned = s.spawned + 1) (hspawn : o.spawn = [(s.spawned, mode)])
      (hserver : o.phase.server = none) : ProxyMove s o
  | stop (server : ProxyServer) (hsender : s.proxy_event_sender = some server)
      (hsender' : o.loop.proxy_event_sender = none) (hspawned : o.loop.spawned = s.spawned)
      (hspawn : o.spawn = []) (hserver : o.phase.server = some server) : ProxyMove s o
  | keep (hsender : o.loop.proxy_event_sender = s.proxy_event_sender)
      (hspawned : o.loop.spawned = s.spawned) (hspawn : o.spawn = [])
      (hserver : o.phase.server = none) : ProxyMove s o

theorem finish_keeps (env : HandlerEnv) (s : HandlerLoop) (after : After) :
    ProxyMove s (finish env s after) := by
  cases after with
  | done => exact .keep rfl rfl rfl rfl
  | modify_config mode =>
    simp only [finish]
    split <;> exact .keep rfl rfl rfl rfl

theorem stop_proxy_keeps (env : HandlerEnv) (s : HandlerLoop) (mode : ProxyMode) :
    ProxyMove s (stop_proxy env s mode) := by
  cases mode with
  | ProxyProvider => exact .keep rfl rfl rfl rfl
  | ProxyClient session_id => exact finish_keeps env s (.modify_config none)

theorem handle_event_proxyMove (env : HandlerEnv) (s : HandlerLoop) (event : OrcaNetEvent) :
    ProxyMove s (handle_event env s event) := by
  have h := handle_event_handled env s event
  generalize handle_event env s event = o at h ⊢
  cases h with
  | start_provider hsender => exact .start .ProxyProvider hsender rfl rfl rfl rfl
  | @start_client session_id hsender =>
    simp only [finish]
    split <;> exact .start (.ProxyClient session_id) hsender rfl rfl rfl rfl
  | tell server hconfig hsender => exact .stop server hsender rfl rfl rfl rfl
  | stop hconfig hsender => exact stop_proxy_keeps env s _
  | _ => exact .keep rfl rfl rfl rfl

theorem resume_proxyMove {env : HandlerEnv} {s : HandlerLoop} {ph : Phase} {wake : Wake}
    {o : Outcome} (h : resume env s ph wake = some o) : ProxyMove s o := by
  unfold resume at h
  split at h
  case h_3 event =>
    obtain rfl := Option.some.inj h
    exact handle_event_proxyMove env s event
  case h_6 key after | h_7 key after =>
    obtain rfl := Option.some.inj h
    exact finish_keeps env s after
  case h_9 server mode =>
    obtain rfl := Option.some.inj h
    exact stop_proxy_keeps env s mode
  case h_13 => cases h
  all_goals
    obtain rfl := Option.some.inj h
    exact .keep rfl rfl rfl rfl

/-! ## What a segment does to the database -/

theorem finish_db (env : HandlerEnv) (s : HandlerLoop) (after : After) :
    (finish env s after).loop.db = s.db := by
  cases after with
  | done => rfl
  | modify_config mode =>
    simp only [finish]
    split <;> rfl

theorem stop_proxy_db (env : HandlerEnv) (s : HandlerLoop) (mode : ProxyMode) :
    (stop_proxy env s mode).loop.db = s.db := by
  cases mode with
  | ProxyProvider => rfl
  | ProxyClient session_id => exact finish_db env s _

theorem command_taken_db {env : HandlerEnv} {s : HandlerLoop} {ph : Phase} {o : Outcome}
    (h : resume env s ph .command_taken = some o) : o.loop.db = s.db := by
  cases ph with
  | respond response channel =>
    obtain rfl := Option.some.inj h
    rfl
  | start_providing key sender after =>
    obtain rfl := Option.some.inj h
    rfl
  | stop_providing key after =>
    obtain rfl := Option.some.inj h
    exact finish_db env s after
  | _ => cases h

/-- The database changes only when an event is handled. -/
theorem resume_db {env : HandlerEnv} {s : HandlerLoop} {ph : Phase} {wake : Wake} {o : Outcome}
    (h : resume env s ph wake = some o) :
    o.loop.db = s.db ∨
      ∃ event, ph = .handle_event event ∧ wake = .run ∧ o = handle_event env s event := by
  unfold resume at h
  split at h
  case h_3 event =>
    obtain rfl := Option.some.inj h
    exact Or.inr ⟨event, rfl, rfl, rfl⟩
  case h_6 key after | h_7 sender after =>
    obtain rfl := Option.some.inj h
    exact Or.inl (finish_db env s after)
  case h_9 server mode =>
    obtain rfl := Option.some.inj h
    exact Or.inl (stop_proxy_db env s mode)
  case h_13 => cases h
  all_goals
    obtain rfl := Option.some.inj h
    exact Or.inl rfl

/-- The request in an event, and the channel for its response. -/
def request_of : OrcaNetEvent → Option (OrcaNetRequest F64 × PeerId × Option ResponseChannel)
  | .Request request from_peer channel => some (request, from_peer, some channel)
  | .StreamRequest request from_peer => some (request, from_peer, none)
  | _ => none

/-- The request that a phase handles. -/
def Phase.request (ph : Phase) : Option (OrcaNetRequest F64 × PeerId × Option ResponseChannel) :=
  ph.event.bind request_of

/-- A request does to the database what its handler does. -/
theorem handle_event_request {env : HandlerEnv} {s : HandlerLoop} {event : OrcaNetEvent}
    {request : OrcaNetRequest F64} {from_peer : PeerId} {channel : Option ResponseChannel}
    (h : request_of event = some (request, from_peer, channel)) :
    (handle_event env s event).loop.db = RequestHandlerLoop.final
      (RequestHandlerLoop.handle_request s.config env.toEnv request from_peer s.db) := by
  cases event with
  | Request request' from_peer' channel' =>
    cases h
    simp only [handle_event]
    split <;> rfl
  | StreamRequest request' from_peer' =>
    cases h
    simp only [handle_event]
    split <;> rfl
  | _ => cases h

/-- Any other event has to do with the provided files only. -/
theorem handle_event_files (env : HandlerEnv) (s : HandlerLoop) {event : OrcaNetEvent}
    (h : request_of event = none) :
    ∃ files, (handle_event env s event).loop.db = { s.db with provided_files := files } := by
  have hsame : ∀ {db : Database}, db = s.db → ∃ files, db = { s.db with provided_files := files } :=
    fun h => ⟨s.db.provided_files, h⟩
  cases event with
  | Request request from_peer channel => cases h
  | StreamRequest request from_peer => cases h
  | ProvideFile file_id file_path =>
    simp only [handle_event, suspend, ProvidedFilesTable.insert_provided_file, execute]
    grind
  | StopProvidingFile file_id permanent =>
    cases permanent <;>
      simp only [handle_event, with_provided_files, suspend, if_true, Bool.false_eq_true, if_false,
        ProvidedFilesTable.remove_provided_file, ProvidedFilesTable.set_provided_file_status,
        execute] <;>
      grind
  | StartProxy mode =>
    refine hsame ?_
    simp only [handle_event]
    split
    · rfl
    · cases mode with
      | ProxyProvider => rfl
      | ProxyClient session_id => exact finish_db env _ _
  | StopProxy =>
    refine hsame ?_
    simp only [handle_event]
    split
    · rfl
    · split
      · rfl
      · exact stop_proxy_db env s _

/-- The response to a stream request is the one of `handle_request`. -/
theorem handle_event_response (env : HandlerEnv) (s : HandlerLoop) (request : OrcaNetRequest F64)
    (from_peer : PeerId) :
    (handle_event env s (.StreamRequest request from_peer)).response =
      RequestHandlerLoop.response
        (RequestHandlerLoop.handle_request s.config env.toEnv request from_peer s.db) := by
  simp only [handle_event]
  split <;> simp_all [suspend]

/-- The handler sends commands of three kinds, each with the channel it waits on. -/
theorem sender_of_command {ph : Phase} {c : NetworkCommand} (h : command ph = some c) :
    c.sender = ph.sender ∧
      ∀ peer_id stream_req sender, c ≠ .SendInStream peer_id stream_req sender := by
  cases ph <;> cases h <;> exact ⟨rfl, by simp⟩

end HandlerLoop

end OrcaNet
