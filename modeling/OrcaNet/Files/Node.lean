import OrcaNet.Framework.System
import OrcaNet.HttpServer.FileEndpoints
import OrcaNet.Network.ProviderRecords

/-! # Files of a node

    The request handler and any number of `resume_providing` calls on the HTTP
    server, over one database and one DHT.  An operation on a file writes its
    row and then sends a command to the network loop, which takes the commands
    of different senders in any order.

    A command takes effect when the network loop takes it.  (An announcement
    that libp2p refuses ends the network loop, so no command is taken from then
    on.)  `Segment` lists what a segment of the handler can do to the rows. -/

namespace OrcaNet

open Transition

namespace Files

/-! ## Section 1: System -/

/-- Who works on a file. -/
inductive Owner where
  | handler
  | http (task : ℕ)
  deriving DecidableEq

structure State where
  handler : HandlerLoop
  phase : HandlerLoop.Phase
  /-- The calls of `resume_providing` in progress, with their file. -/
  resuming : List (ℕ × String)
  /-- The keys of the provider records that the node keeps up. -/
  provided : Finset String
  /-- For each file the operations that wrote its row and whose command was not
      taken, newest first; `true` announces the file. -/
  outstanding : String → List (Owner × Bool)
  /-- How often a file was given away since its row was inserted. -/
  served : String → ℕ

inductive Label where
  /-- A segment of the handler. -/
  | handler (env : HandlerEnv) (wake : HandlerLoop.Wake)
  /-- The network loop takes the handler's command. -/
  | command_taken (env : HandlerEnv) (swarm : Swarm)
  /-- A call of `resume_providing` up to its command. -/
  | resume_providing (env : Env) (task : ℕ) (file_id : String)
  | resume_command_taken (task : ℕ) (file_id : String) (sender : Sender) (swarm : Swarm)
  | resume_reply (task : ℕ) (file_id : String)

/-- What a step draws from outside, where it works on the database. -/
def Label.env : Label → Option Env
  | .handler env _ | .command_taken env _ => some env.toEnv
  | .resume_providing env _ _ => some env
  | .resume_command_taken _ _ _ _ | .resume_reply _ _ => none

/-- The file operation whose command the handler is sending. -/
def operation : HandlerLoop.Phase → Option (String × Bool)
  | .start_providing file_id _ .done => some (file_id, true)
  | .stop_providing file_id .done => some (file_id, false)
  | _ => none

/-- An operation wrote its row. -/
def issue (outstanding : String → List (Owner × Bool)) (owner : Owner) :
    Option (String × Bool) → String → List (Owner × Bool)
  | some (file_id, announce) =>
    Function.update outstanding file_id ((owner, announce) :: outstanding file_id)
  | none => outstanding

/-- The command of an operation was taken. -/
def withdraw (outstanding : String → List (Owner × Bool)) (owner : Owner) :
    Option (String × Bool) → String → List (Owner × Bool)
  | some (file_id, _) =>
    Function.update outstanding file_id ((outstanding file_id).filter fun p => p.1 ≠ owner)
  | none => outstanding

/-- What the handler answers to the request that it handles. -/
def answer (cfg : OrcaNetConfig) (env : Env) (db : Database) (event : OrcaNetEvent) :
    Option (OrcaNetResponse F64) :=
  (HandlerLoop.request_of event).bind fun p =>
    RequestHandlerLoop.response (RequestHandlerLoop.handle_request cfg env p.1 p.2.1 db)

/-- The file whose content an answer gives away. -/
def content_of : OrcaNetRequest F64 → Option (OrcaNetResponse F64) → Option String
  | .FileContentRequest file_id, some (.FileContentResponse _ _) => some file_id
  | _, _ => none

/-- The file that is given away in the answer to an event. -/
def given (event : OrcaNetEvent) (resp : Option (OrcaNetResponse F64)) : Option String :=
  (HandlerLoop.request_of event).bind fun p => content_of p.1 resp

theorem given_of_request {event : OrcaNetEvent} {request : OrcaNetRequest F64} {from_peer : PeerId}
    {channel : Option ResponseChannel}
    (h : HandlerLoop.request_of event = some (request, from_peer, channel))
    (resp : Option (OrcaNetResponse F64)) :
    given event resp = content_of request resp := by
  rw [given, h]
  rfl

theorem given_of_no_request {event : OrcaNetEvent} (h : HandlerLoop.request_of event = none)
    (resp : Option (OrcaNetResponse F64)) : given event resp = none := by
  rw [given, h]
  rfl

/-- The counts after a segment that ends in phase `ph`. -/
def count (s : State) (env : HandlerEnv) (ph : HandlerLoop.Phase) : String → ℕ :=
  match s.phase with
  | .handle_event event =>
    match given event (answer s.handler.config env.toEnv s.handler.db event), operation ph with
    | some file_id, _ => Function.update s.served file_id (s.served file_id + 1)
    -- a new row
    | none, some (file_id, true) => Function.update s.served file_id 0
    | none, _ => s.served
  | _ => s.served

def next (s : State) : Label → Option State
  | .handler _ .command_taken => none
  | .handler env wake =>
    (HandlerLoop.resume env s.handler s.phase wake).map fun o =>
      { s with
        handler := o.loop
        phase := o.phase
        outstanding := issue s.outstanding .handler (operation o.phase)
        served := count s env o.phase }
  | .command_taken env swarm =>
    match (HandlerLoop.command s.phase).bind fun c => NetworkEventLoop.handled swarm c s.provided,
      HandlerLoop.resume env s.handler s.phase .command_taken with
    | some provided, some o =>
      some { s with
        handler := o.loop
        phase := o.phase
        provided := provided
        outstanding := withdraw s.outstanding .handler (operation s.phase) }
    | _, _ => none
  | .resume_providing env task file_id =>
    if task ∈ s.resuming.map Prod.fst then none
    else
      match FileEndpoints.resume_providing env file_id s.handler.db with
      | (.start_providing, db) =>
        some { s with
          handler := { s.handler with db := db }
          resuming := (task, file_id) :: s.resuming
          outstanding := issue s.outstanding (.http task) (some (file_id, true)) }
      | (_, db) => some { s with handler := { s.handler with db := db } }
  | .resume_command_taken task file_id sender swarm =>
    if (.http task, true) ∈ s.outstanding file_id then
      (NetworkEventLoop.handled swarm (.StartProviding file_id sender) s.provided).map
        fun provided => { s with
          provided := provided
          outstanding := withdraw s.outstanding (.http task) (some (file_id, true)) }
    else none
  | .resume_reply task file_id =>
    if (task, file_id) ∈ s.resuming ∧ (.http task, true) ∉ s.outstanding file_id then
      some { s with resuming := s.resuming.filter fun p => p ≠ (task, file_id) }
    else none

/-- No operation is in progress. -/
structure Idle (s : State) : Prop where
  phase : s.phase = .next_event
  resuming : s.resuming = []
  outstanding : ∀ file_id, s.outstanding file_id = []

def system : System State Label where
  init := Idle
  next := next

/-! ## Section 2: What a segment does to the rows -/

/-- Everything that a segment of the handler can do to the files. -/
inductive Segment (env : HandlerEnv) (s : HandlerLoop) :
    HandlerLoop.Phase → HandlerLoop.Outcome → Prop where
  | idle {ph o} (hfiles : o.loop.db.provided_files = s.db.provided_files)
      (hgiven : ∀ event, ph = .handle_event event →
        given event (answer s.config env.toEnv s.db event) = none)
      (hop : operation o.phase = none) : Segment env s ph o
  | request {event request from_peer channel file_id o}
      (hrequest : HandlerLoop.request_of event = some (request, from_peer, channel))
      (hfile : RequestHandlerLoop.requested_file request = some file_id)
      (hanswer : RequestHandlerLoop.FileAnswer s.config env.toEnv s.db file_id request
        (answer s.config env.toEnv s.db event) o.loop.db)
      (hop : operation o.phase = none) : Segment env s (.handle_event event) o
  | provide {file_id file_path file_name o} (hnew : s.db.provided_file file_id = none)
      (hrow : ∀ j, o.loop.db.provided_file j =
        if j = file_id then some (.with_defaults file_id file_path file_name
          env.get_unix_timestamp) else s.db.provided_file j)
      (hop : operation o.phase = some (file_id, true)) :
      Segment env s (.handle_event (.ProvideFile file_id file_path)) o
  | stop {file_id permanent o}
      (hrow : ∀ j, o.loop.db.provided_file j =
        if j = file_id then
          if permanent then none
          else (s.db.provided_file j).map (ProvidedFilesTable.with_status false none)
        else s.db.provided_file j)
      (hop : operation o.phase = some (file_id, false)) :
      Segment env s (.handle_event (.StopProvidingFile file_id permanent)) o

theorem finish_idle (env : HandlerEnv) (s : HandlerLoop) (after : HandlerLoop.After) :
    (HandlerLoop.finish env s after).loop.db = s.db ∧
      operation (HandlerLoop.finish env s after).phase = none := by
  cases after with
  | done => exact ⟨rfl, rfl⟩
  | modify_config mode =>
    simp only [HandlerLoop.finish]
    split <;> exact ⟨rfl, rfl⟩

theorem stop_proxy_idle (env : HandlerEnv) (s : HandlerLoop) (mode : ProxyMode) :
    (HandlerLoop.stop_proxy env s mode).loop.db = s.db ∧
      operation (HandlerLoop.stop_proxy env s mode).phase = none := by
  cases mode with
  | ProxyProvider => exact ⟨rfl, rfl⟩
  | ProxyClient session_id => exact finish_idle env s _

/-- A segment that changes no file and handles no request. -/
theorem Segment.of_db {env : HandlerEnv} {s : HandlerLoop} {ph : HandlerLoop.Phase}
    {o : HandlerLoop.Outcome} (hdb : o.loop.db = s.db) (hop : operation o.phase = none)
    (hrequest : ∀ event, ph = .handle_event event → HandlerLoop.request_of event = none) :
    Segment env s ph o := by
  refine .idle (congrArg Database.provided_files hdb) ?_ hop
  intro event hev
  exact given_of_no_request (hrequest event hev) _

theorem segment_of_request (env : HandlerEnv) (s : HandlerLoop) {event : OrcaNetEvent}
    {request : OrcaNetRequest F64} {from_peer : PeerId} {channel : Option ResponseChannel}
    (h : HandlerLoop.request_of event = some (request, from_peer, channel)) :
    Segment env s (.handle_event event) (HandlerLoop.handle_event env s event) := by
  have hop : operation (HandlerLoop.handle_event env s event).phase = none := by
    cases event <;> cases h <;> simp only [HandlerLoop.handle_event] <;> split <;> rfl
  -- both kinds of requests go through `handle_request`
  have hdb : (HandlerLoop.handle_event env s event).loop.db = _ :=
    HandlerLoop.handle_event_request h
  cases hfile : RequestHandlerLoop.requested_file request with
  | some file_id =>
    refine .request h hfile ?_ hop
    rw [hdb, answer, h]
    exact RequestHandlerLoop.handle_request_file s.config env.toEnv from_peer s.db hfile
  | none =>
    have hkeeps := RequestHandlerLoop.handle_request_keepsFiles s.config env.toEnv from_peer hfile
    refine .idle (by rw [hdb]; exact hkeeps s.db) ?_ hop
    intro event' hev
    cases hev
    rw [given_of_request h]
    cases request <;> first | rfl | cases hfile

theorem segment_of_event {env : HandlerEnv} (hnf : env.toEnv.NoFaults) (s : HandlerLoop)
    (event : OrcaNetEvent) :
    Segment env s (.handle_event event) (HandlerLoop.handle_event env s event) := by
  cases event with
  | Request request from_peer channel => exact segment_of_request env s rfl
  | StreamRequest request from_peer => exact segment_of_request env s rfl
  | ProvideFile file_id file_path =>
    simp only [HandlerLoop.handle_event]
    split
    · exact .of_db rfl rfl (by rintro _ ⟨⟩; rfl)
    · rename_i file_name hname
      split
      · split
        · exact .of_db rfl rfl (by rintro _ ⟨⟩; rfl)
        · split
          · -- a fresh file: the row and the command that announces it
            rename_i hinsert
            obtain ⟨hnew, hrow⟩ := ProvidedFilesTable.insert_provided_file_eq_ok hinsert
            exact .provide hnew hrow rfl
          · rename_i hinsert
            -- the file is known already, and its row is kept
            have hdb := ProvidedFilesTable.insert_provided_file_eq_error hinsert
            exact .of_db hdb rfl (by rintro _ ⟨⟩; rfl)
      · exact .of_db rfl rfl (by rintro _ ⟨⟩; rfl)
  | StopProvidingFile file_id permanent =>
    simp only [HandlerLoop.handle_event, HandlerLoop.with_provided_files, hnf _]
    -- the row is removed or set inactive, the other rows stay
    refine .stop (fun j => ?_) rfl
    cases permanent with
    | true => exact ProvidedFilesTable.remove_provided_file_row (hnf _) file_id j
    | false =>
      refine (ProvidedFilesTable.set_provided_file_status_row (hnf _) file_id j false none).trans ?_
      cases hj : s.db.provided_file j with
      | none => split <;> rfl
      | some r =>
        have hid := Database.provided_file_id hj
        by_cases hjf : j = file_id
        · simp [hjf, hid.trans hjf]
        · simp [hjf, hid]
  | StartProxy mode =>
    simp only [HandlerLoop.handle_event]
    split
    · exact .of_db rfl rfl (by rintro _ ⟨⟩; rfl)
    · cases mode with
      | ProxyProvider => exact .of_db rfl rfl (by rintro _ ⟨⟩; rfl)
      | ProxyClient session_id =>
        obtain ⟨hdb, hop⟩ := finish_idle env
          { s with proxy_event_sender := some s.spawned, spawned := s.spawned + 1 }
          (.modify_config (some (.ProxyClient session_id)))
        exact .of_db hdb hop (by rintro _ ⟨⟩; rfl)
  | StopProxy =>
    simp only [HandlerLoop.handle_event]
    split
    · exact .of_db rfl rfl (by rintro _ ⟨⟩; rfl)
    · split
      · exact .of_db rfl rfl (by rintro _ ⟨⟩; rfl)
      · obtain ⟨hdb, hop⟩ := stop_proxy_idle env s _
        exact .of_db hdb hop (by rintro _ ⟨⟩; rfl)

theorem segment_of_resume {env : HandlerEnv} (hnf : env.toEnv.NoFaults) {s : HandlerLoop}
    {ph : HandlerLoop.Phase} {wake : HandlerLoop.Wake} {o : HandlerLoop.Outcome}
    (h : HandlerLoop.resume env s ph wake = some o) (hwake : wake ≠ .command_taken) :
    Segment env s ph o := by
  unfold HandlerLoop.resume at h
  split at h
  case h_3 event =>
    obtain rfl := Option.some.inj h
    exact segment_of_event hnf s event
  case h_7 sender after =>
    obtain rfl := Option.some.inj h
    obtain ⟨hdb, hop⟩ := finish_idle env s after
    exact .of_db hdb hop nofun
  case h_9 server mode =>
    obtain rfl := Option.some.inj h
    obtain ⟨hdb, hop⟩ := stop_proxy_idle env s mode
    exact .of_db hdb hop nofun
  case h_4 | h_5 | h_6 => exact absurd rfl hwake
  case h_13 => cases h
  all_goals
    obtain rfl := Option.some.inj h
    exact .of_db rfl rfl nofun

theorem next_handler {env : HandlerEnv} (hnf : env.toEnv.NoFaults) {s s' : State}
    {wake : HandlerLoop.Wake} (h : next s (.handler env wake) = some s') :
    ∃ o, HandlerLoop.resume env s.handler s.phase wake = some o ∧ wake ≠ .command_taken ∧
      Segment env s.handler s.phase o ∧
      s' = { s with
        handler := o.loop
        phase := o.phase
        outstanding := issue s.outstanding .handler (operation o.phase)
        served := count s env o.phase } := by
  by_cases hwake : wake = .command_taken
  · subst hwake
    cases h
  · have hnext : next s (.handler env wake) =
        (HandlerLoop.resume env s.handler s.phase wake).map fun o =>
          { s with
            handler := o.loop
            phase := o.phase
            outstanding := issue s.outstanding .handler (operation o.phase)
            served := count s env o.phase } := by
      cases wake <;> first | exact absurd rfl hwake | rfl
    rw [hnext] at h
    obtain ⟨o, ho, hs'⟩ := Option.map_eq_some_iff.mp h
    exact ⟨o, ho, hwake, segment_of_resume hnf ho hwake, hs'.symm⟩

/-- The segment that a taken command starts leaves the database alone and waits for no other
announcement. -/
theorem command_taken_effect {env : HandlerEnv} {s : HandlerLoop} {ph : HandlerLoop.Phase}
    {o : HandlerLoop.Outcome} (h : HandlerLoop.resume env s ph .command_taken = some o) :
    o.loop.db = s.db ∧ operation o.phase = none := by
  cases ph with
  | respond response channel =>
    obtain rfl := Option.some.inj h
    exact ⟨rfl, rfl⟩
  | start_providing key sender after =>
    obtain rfl := Option.some.inj h
    exact ⟨rfl, rfl⟩
  | stop_providing key after =>
    obtain rfl := Option.some.inj h
    exact finish_idle env s after
  | _ => cases h

theorem next_command_taken {env : HandlerEnv} {swarm : Swarm} {s s' : State}
    (h : next s (.command_taken env swarm) = some s') :
    ∃ c provided o, HandlerLoop.command s.phase = some c ∧
      NetworkEventLoop.handled swarm c s.provided = some provided ∧
      HandlerLoop.resume env s.handler s.phase .command_taken = some o ∧
      s' = { s with
        handler := o.loop
        phase := o.phase
        provided := provided
        outstanding := withdraw s.outstanding .handler (operation s.phase) } := by
  simp only [next] at h
  split at h
  · rename_i provided o hhandled ho
    obtain ⟨c, hc, hhandled⟩ := Option.bind_eq_some_iff.mp hhandled
    exact ⟨c, provided, o, hc, hhandled, ho, (Option.some.inj h).symm⟩
  · cases h

/-- A call of `resume_providing` announces a file that it found, or has no effect. -/
theorem next_resume_providing {env : Env} {task : ℕ} {file_id : String} {s s' : State}
    (h : next s (.resume_providing env task file_id) = some s') :
    ∃ outcome db, FileEndpoints.resume_providing env file_id s.handler.db = (outcome, db) ∧
      task ∉ s.resuming.map Prod.fst ∧
      ((outcome = .start_providing ∧ s' = { s with
          handler := { s.handler with db := db }
          resuming := (task, file_id) :: s.resuming
          outstanding := issue s.outstanding (.http task) (some (file_id, true)) }) ∨
        (outcome ≠ .start_providing ∧
          s' = { s with handler := { s.handler with db := db } })) := by
  simp only [next] at h
  split at h
  · cases h
  · rename_i htask
    split at h
    · rename_i db hresume
      exact ⟨_, db, hresume, htask, Or.inl ⟨rfl, (Option.some.inj h).symm⟩⟩
    · rename_i outcome db hne hresume
      exact ⟨outcome, db, hresume, htask, Or.inr ⟨hne, (Option.some.inj h).symm⟩⟩

theorem next_resume_command_taken {task : ℕ} {file_id : String} {sender : Sender} {swarm : Swarm}
    {s s' : State} (h : next s (.resume_command_taken task file_id sender swarm) = some s') :
    (.http task, true) ∈ s.outstanding file_id ∧ ∃ provided,
      NetworkEventLoop.handled swarm (.StartProviding file_id sender) s.provided = some provided ∧
      s' = { s with
        provided := provided
        outstanding := withdraw s.outstanding (.http task) (some (file_id, true)) } := by
  simp only [next] at h
  split at h
  · rename_i hmem
    obtain ⟨provided, hhandled, hs'⟩ := Option.map_eq_some_iff.mp h
    exact ⟨hmem, provided, hhandled, hs'.symm⟩
  · cases h

theorem next_resume_reply {task : ℕ} {file_id : String} {s s' : State}
    (h : next s (.resume_reply task file_id) = some s') :
    (.http task, true) ∉ s.outstanding file_id ∧
      s' = { s with resuming := s.resuming.filter fun p => p ≠ (task, file_id) } := by
  simp only [next] at h
  split at h
  · rename_i hcond
    exact ⟨hcond.2, (Option.some.inj h).symm⟩
  · cases h

/-- The handler announces nothing but files and the proxy. -/
def Keyed : HandlerLoop.Phase → Prop
  | .start_providing key _ (.modify_config _) | .stop_providing key (.modify_config _) =>
    key = OrcaNetConfig.PROXY_PROVIDER_KEY_DHT
  | _ => True

theorem finish_keyed (env : HandlerEnv) (s : HandlerLoop) (after : HandlerLoop.After) :
    Keyed (HandlerLoop.finish env s after).phase := by
  cases after with
  | done => trivial
  | modify_config mode =>
    simp only [HandlerLoop.finish]
    split <;> trivial

theorem stop_proxy_keyed (env : HandlerEnv) (s : HandlerLoop) (mode : ProxyMode) :
    Keyed (HandlerLoop.stop_proxy env s mode).phase := by
  cases mode with
  | ProxyProvider => rfl
  | ProxyClient session_id => exact finish_keyed env s _

theorem handle_event_keyed (env : HandlerEnv) (s : HandlerLoop) (event : OrcaNetEvent) :
    Keyed (HandlerLoop.handle_event env s event).phase := by
  have h := HandlerLoop.handle_event_handled env s event
  generalize HandlerLoop.handle_event env s event = o at h ⊢
  cases h with
  | start_provider hsender => rfl
  | start_client hsender => exact finish_keyed env _ _
  | stop hconfig hsender => exact stop_proxy_keyed env s _
  | _ => trivial

theorem resume_keyed {env : HandlerEnv} {s : HandlerLoop} {ph : HandlerLoop.Phase}
    {wake : HandlerLoop.Wake} {o : HandlerLoop.Outcome}
    (h : HandlerLoop.resume env s ph wake = some o) : Keyed o.phase := by
  unfold HandlerLoop.resume at h
  split at h
  case h_3 event =>
    obtain rfl := Option.some.inj h
    exact handle_event_keyed env s event
  case h_6 key after | h_7 key after =>
    obtain rfl := Option.some.inj h
    exact finish_keyed env s after
  case h_9 server mode =>
    obtain rfl := Option.some.inj h
    exact stop_proxy_keyed env s mode
  case h_13 => cases h
  all_goals
    obtain rfl := Option.some.inj h
    trivial

/-- An operation whose command is not taken ends with the network loop. -/
theorem panicked_of_operation {env : HandlerEnv} {s : HandlerLoop} {ph : HandlerLoop.Phase}
    {wake : HandlerLoop.Wake} {o : HandlerLoop.Outcome}
    (h : HandlerLoop.resume env s ph wake = some o) (hwake : wake ≠ .command_taken)
    {p : String × Bool} (hop : operation ph = some p) : ∃ message, o.phase = .panicked message := by
  cases ph with
  | start_providing key sender after | stop_providing key after =>
    cases wake with
    | command_taken => exact absurd rfl hwake
    | command_receiver_dropped =>
      obtain rfl := Option.some.inj h
      exact ⟨_, rfl⟩
    | _ => cases h
  | _ => cases hop

end Files

end OrcaNet
