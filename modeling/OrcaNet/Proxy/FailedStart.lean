import OrcaNet.Files.Advertised
import OrcaNet.Proxy.HttpProxy
import OrcaNet.Proxy.LifeCycle

/-! # Failed starts of the proxy

    `StartProxy` spawns the task of a proxy server and commits three things of
    its own: the sender to the task, the provider record and the mode in the
    configuration.  Nobody awaits the task, so when it fails before it serves
    these stay until somebody stops the proxy.

    The system is that of `HttpProxy` with the provider records, and with other
    tasks that write the database.  (What other tasks announce are files, under
    keys of their own.)  `Control` is the invariant: it says for each point where
    the handler can be suspended what it has committed. -/

namespace OrcaNet

open Transition OrcaNetConfig

namespace FailedStart

/-! ## Section 1: System -/

structure State where
  servers : HttpProxy.State
  /-- The keys of the provider records that the node keeps up. -/
  provided : Finset String
  /-- The last start or stop that was handled. -/
  last : Option LifeCycle.Event

inductive Label where
  /-- A segment of the handler. -/
  | handler (env : HandlerEnv) (wake : HandlerLoop.Wake)
  /-- The network loop takes the handler's command. -/
  | command_taken (env : HandlerEnv) (swarm : Swarm)
  /-- A proxy server moves on. -/
  | server (l : HttpProxy.Label)
  /-- Another task writes the database. -/
  | database (db : Database)

/-- What is sent to the handler: whoever provides a file names its digest. -/
def Sendable : OrcaNetEvent → Prop
  | .ProvideFile file_id _ => Files.IsDigest file_id
  | _ => True

instance : DecidablePred Sendable
  | .ProvideFile file_id _ => inferInstanceAs (Decidable (Files.IsDigest file_id))
  | .Request _ _ _ | .StreamRequest _ _ | .StopProvidingFile _ _ | .StartProxy _ | .StopProxy =>
    .isTrue trivial

/-- The start or stop that the handler is about to handle. -/
def handling (ph : HandlerLoop.Phase) : Option LifeCycle.Event :=
  ph.event.bind fun event => LifeCycle.event_of (.event event)

/-- A segment of the handler that takes no command. -/
def segment (s : State) (env : HandlerEnv) (wake : HandlerLoop.Wake) : Option State :=
  (HttpProxy.next s.servers (.handler env wake)).map fun servers =>
    { s with servers := servers, last := (handling s.servers.phase).or s.last }

def next (s : State) : Label → Option State
  | .handler _ .command_taken => none
  | .handler env (.event event) => if Sendable event then segment s env (.event event) else none
  | .handler env wake => segment s env wake
  | .command_taken env swarm =>
    match (HandlerLoop.command s.servers.phase).bind fun c =>
        NetworkEventLoop.handled swarm c s.provided,
      HttpProxy.next s.servers (.handler env .command_taken) with
    | some provided, some servers => some { s with servers := servers, provided := provided }
    | _, _ => none
  | .server (.handler _ _) => none
  | .server l => (HttpProxy.next s.servers l).map fun servers => { s with servers := servers }
  | .database db =>
    some { s with servers := { s.servers with handler := { s.servers.handler with db := db } } }

/-- A node before its first proxy server, whatever its configuration says. -/
structure Init (s : State) : Prop where
  servers : HttpProxy.Init s.servers
  provided : LifeCycle.proxy_key ∉ s.provided
  last : s.last = none

def system : System State Label where
  init := Init
  next := next

/-! ## Section 2: What the handler has committed -/

/-- Between two events. -/
structure Between (h : HandlerLoop) (provided : Finset String) (last : Option LifeCycle.Event) :
    Prop where
  fresh : last = none → h.proxy_event_sender = none ∧ h.spawned = 0
  started : ∀ mode, last = some (.start mode) → h.proxy_event_sender.isSome
  stopped : last = some .stop → h.proxy_event_sender = none ∧ h.config.get_proxy_config = none
  provided : LifeCycle.proxy_key ∈ provided →
    h.proxy_event_sender.isSome ∧ h.config.get_proxy_config = some .ProxyProvider

/-- A server was spawned, and its mode is not written so far. -/
structure Starting (h : HandlerLoop) (last : Option LifeCycle.Event) : Prop where
  sender : h.proxy_event_sender.isSome
  last : ∃ mode, last = some (.start mode)

/-- The sender was given up, and a mode is configured. -/
structure Stopping (h : HandlerLoop) (last : Option LifeCycle.Event) : Prop where
  sender : h.proxy_event_sender = none
  last : last = some .stop

/-- How far the handler has got, for each phase. -/
def Control (h : HandlerLoop) (provided : Finset String) (last : Option LifeCycle.Event) :
    HandlerLoop.Phase → Prop
  | .next_event | .respond _ _ => Between h provided last
  | .handle_event event => Between h provided last ∧ Sendable event
  -- a file is announced under a key of its own
  | .start_providing key _ .done =>
    Between h provided last ∧ LifeCycle.proxy_key ≠ Utils.get_key_with_ns key
  | .start_providing_reply _ .done | .stop_providing _ .done => Between h provided last
  | .start_providing _ _ (.modify_config new) | .start_providing_reply _ (.modify_config new) =>
    Starting h last ∧ new = some .ProxyProvider
  | .stop_providing key (.modify_config new) =>
    Stopping h last ∧ new = none ∧ key = PROXY_PROVIDER_KEY_DHT
  | .send_proxy_event _ mode =>
    Stopping h last ∧ h.config.get_proxy_config = some mode ∧
      (LifeCycle.proxy_key ∈ provided → mode = .ProxyProvider)
  | .panicked _ => True

section control

variable {h : HandlerLoop} {provided : Finset String} {last : Option LifeCycle.Event}

/-- Without a sender the proxy is not announced. -/
theorem Between.not_provided (hb : Between h provided last)
    (hsender : h.proxy_event_sender = none) : LifeCycle.proxy_key ∉ provided := by
  intro hkey
  have hsome := (hb.provided hkey).1
  rw [hsender] at hsome
  cases hsome

/-- Fewer records do no harm. -/
theorem Between.erase (hb : Between h provided last) (key : String) :
    Between h (provided.erase key) last :=
  ⟨hb.fresh, hb.started, hb.stopped, fun hkey => hb.provided (Finset.mem_of_mem_erase hkey)⟩

/-- The mode of a new server is written. -/
theorem control_finish_start (env : HandlerEnv) (hs : Starting h last) {mode : ProxyMode}
    (hmode : LifeCycle.proxy_key ∈ provided → mode = .ProxyProvider) :
    Control (HandlerLoop.finish env h (.modify_config (some mode))).loop provided last
      (HandlerLoop.finish env h (.modify_config (some mode))).phase := by
  obtain ⟨m, rfl⟩ := hs.last
  simp only [HandlerLoop.finish]
  cases env.write_config with
  | error e => trivial
  | ok u =>
    refine ⟨by simp, fun _ _ => hs.sender, by simp, fun hkey => ⟨hs.sender, ?_⟩⟩
    exact congrArg some (hmode hkey)

/-- The mode is taken out of the configuration. -/
theorem control_finish_stop (env : HandlerEnv) (hs : Stopping h last)
    (hkey : LifeCycle.proxy_key ∉ provided) :
    Control (HandlerLoop.finish env h (.modify_config none)).loop provided last
      (HandlerLoop.finish env h (.modify_config none)).phase := by
  obtain rfl := hs.last
  simp only [HandlerLoop.finish]
  cases env.write_config with
  | error e => trivial
  | ok u => exact ⟨by simp, by simp, fun _ => ⟨hs.sender, rfl⟩, fun hmem => absurd hmem hkey⟩

theorem control_stop_proxy (env : HandlerEnv) (hs : Stopping h last) {mode : ProxyMode}
    (hmode : LifeCycle.proxy_key ∈ provided → mode = .ProxyProvider) :
    Control (HandlerLoop.stop_proxy env h mode).loop provided last
      (HandlerLoop.stop_proxy env h mode).phase := by
  cases mode with
  | ProxyProvider => exact ⟨hs, rfl, rfl⟩
  | ProxyClient session_id =>
    exact control_finish_stop env hs fun hkey => by cases hmode hkey

/-- A step of the handler that changes nothing but the database. -/
theorem Between.of_db (hb : Between h provided last) (db : Database) :
    Between { h with db := db } provided last :=
  ⟨hb.fresh, hb.started, hb.stopped, hb.provided⟩

/-- A start is ignored if the handler has a sender. -/
theorem control_start (env : HandlerEnv) (hb : Between h provided last) (new : ProxyMode) :
    Control (HandlerLoop.handle_event env h (.StartProxy new)).loop provided (some (.start new))
      (HandlerLoop.handle_event env h (.StartProxy new)).phase := by
  have hhandled := HandlerLoop.handle_event_handled env h (.StartProxy new)
  generalize HandlerLoop.handle_event env h (.StartProxy new) = o at hhandled ⊢
  have hstarting : ∀ mode, Starting { h with
      proxy_event_sender := some h.spawned
      spawned := h.spawned + 1 } (some (.start mode)) := fun mode => ⟨rfl, mode, rfl⟩
  cases hhandled with
  | panicked message db => trivial
  | running server hsender =>
    have hsome : h.proxy_event_sender.isSome := by simp [hsender]
    exact ⟨by simp, fun _ _ => hsome, by simp, hb.provided⟩
  | start_provider hsender => exact ⟨hstarting _, rfl⟩
  | start_client hsender =>
    exact control_finish_start env (hstarting _) fun hkey => absurd hkey (hb.not_provided hsender)

theorem control_stop (env : HandlerEnv) (hb : Between h provided last) :
    Control (HandlerLoop.handle_event env h .StopProxy).loop provided (some .stop)
      (HandlerLoop.handle_event env h .StopProxy).phase := by
  have hhandled := HandlerLoop.handle_event_handled env h .StopProxy
  generalize HandlerLoop.handle_event env h .StopProxy = o at hhandled ⊢
  -- only a provider is announced
  have hmode : ∀ {mode}, h.config.get_proxy_config = some mode →
      LifeCycle.proxy_key ∈ provided → mode = .ProxyProvider := by
    intro mode hconfig hkey
    exact Option.some.inj (hconfig.symm.trans (hb.provided hkey).2)
  cases hhandled with
  | panicked message db => trivial
  | tell server hconfig hsender => exact ⟨⟨rfl, rfl⟩, hconfig, hmode hconfig⟩
  | stop hconfig hsender => exact control_stop_proxy env ⟨hsender, rfl⟩ (hmode hconfig)

/-- Any other event leaves the proxy alone. -/
theorem control_other (env : HandlerEnv) (hb : Between h provided last) {event : OrcaNetEvent}
    (hevent : LifeCycle.event_of (.event event) = none) (hsend : Sendable event) :
    Control (HandlerLoop.handle_event env h event).loop provided last
      (HandlerLoop.handle_event env h event).phase := by
  have hhandled := HandlerLoop.handle_event_handled env h event
  generalize HandlerLoop.handle_event env h event = o at hhandled ⊢
  cases hhandled with
  | running | start_provider | start_client | tell | stop => cases hevent
  | panicked message db => trivial
  | start_providing db => exact ⟨hb.of_db db, Files.key_ne_proxy hsend⟩
  | respond response db | response response db | not_provided db | stop_providing db =>
    exact hb.of_db db

theorem control_handle_event (env : HandlerEnv) (hb : Between h provided last)
    {event : OrcaNetEvent} (hsend : Sendable event) :
    Control (HandlerLoop.handle_event env h event).loop provided
      ((handling (.handle_event event)).or last)
      (HandlerLoop.handle_event env h event).phase := by
  cases event with
  | StartProxy new => exact control_start env hb new
  | StopProxy => exact control_stop env hb
  | _ => exact control_other env hb rfl hsend

/-- A segment that starts with no taken command. -/
theorem control_resume {env : HandlerEnv} {ph : HandlerLoop.Phase} {wake : HandlerLoop.Wake}
    {o : HandlerLoop.Outcome} (hc : Control h provided last ph)
    (hsend : ∀ event, wake = .event event → Sendable event) (hwake : wake ≠ .command_taken)
    (ho : HandlerLoop.resume env h ph wake = some o) :
    Control o.loop provided ((handling ph).or last) o.phase := by
  unfold HandlerLoop.resume at ho
  split at ho
  case h_1 event =>
    obtain rfl := Option.some.inj ho
    exact ⟨hc, hsend event rfl⟩
  case h_3 event =>
    obtain rfl := Option.some.inj ho
    exact control_handle_event env hc.1 hc.2
  case h_4 | h_5 | h_6 => exact absurd rfl hwake
  case h_7 sender after =>
    obtain rfl := Option.some.inj ho
    cases after with
    | done => exact hc
    | modify_config new =>
      obtain ⟨hstarting, rfl⟩ := hc
      -- the record of proxies is announced: the start is complete
      exact control_finish_start env hstarting fun _ => rfl
  case h_9 server mode =>
    obtain rfl := Option.some.inj ho
    exact control_stop_proxy env hc.1 hc.2.2
  case h_13 => cases ho
  all_goals
    obtain rfl := Option.some.inj ho
    trivial

/-- The network loop takes the handler's command. -/
theorem control_command_taken {env : HandlerEnv} {swarm : Swarm} {ph : HandlerLoop.Phase}
    {c : NetworkCommand} {provided' : Finset String} {o : HandlerLoop.Outcome}
    (hc : Control h provided last ph) (hcommand : HandlerLoop.command ph = some c)
    (hhandled : NetworkEventLoop.handled swarm c provided = some provided')
    (ho : HandlerLoop.resume env h ph .command_taken = some o) :
    Control o.loop provided' last o.phase := by
  cases ph with
  | respond response channel =>
    obtain rfl := Option.some.inj hcommand
    obtain rfl := Option.some.inj ho
    obtain rfl := NetworkEventLoop.handled_respond hhandled
    exact hc
  | start_providing key sender after =>
    obtain rfl := Option.some.inj hcommand
    obtain rfl := Option.some.inj ho
    cases after with
    | modify_config new => exact hc
    | done =>
      obtain ⟨hb, hne⟩ := hc
      refine ⟨hb.fresh, hb.started, hb.stopped, fun hkey => ?_⟩
      -- the command is about a file, so the record of proxies is an old one
      rw [NetworkEventLoop.handled_start_providing hhandled] at hkey
      exact hb.provided (Finset.mem_of_mem_insert_of_ne hkey hne)
  | stop_providing key after =>
    obtain rfl := Option.some.inj hcommand
    obtain rfl := Option.some.inj ho
    obtain rfl := NetworkEventLoop.handled_stop_providing hhandled
    cases after with
    | done => exact Between.erase hc _
    | modify_config new =>
      obtain ⟨hstopping, rfl, rfl⟩ := hc
      exact control_finish_stop env hstopping (Finset.notMem_erase _ _)
  | _ => cases hcommand

end control

/-! ## Section 3: Steps -/

theorem next_handler {s s' : State} {env : HandlerEnv} {wake : HandlerLoop.Wake}
    (h : next s (.handler env wake) = some s') :
    wake ≠ .command_taken ∧ (∀ event, wake = .event event → Sendable event) ∧
      ∃ servers, HttpProxy.next s.servers (.handler env wake) = some servers ∧
        s' = { s with servers := servers, last := (handling s.servers.phase).or s.last } := by
  have hsegment : ∀ {w}, segment s env w = some s' → ∃ servers,
      HttpProxy.next s.servers (.handler env w) = some servers ∧
        s' = { s with servers := servers, last := (handling s.servers.phase).or s.last } := by
    intro w hw
    obtain ⟨servers, hservers, hs'⟩ := Option.map_eq_some_iff.mp hw
    exact ⟨servers, hservers, hs'.symm⟩
  cases wake with
  | command_taken => cases h
  | event event =>
    simp only [next] at h
    split at h
    · rename_i hsend
      refine ⟨by simp, fun event' hev => ?_, hsegment h⟩
      obtain rfl := HandlerLoop.Wake.event.inj hev
      exact hsend
    · cases h
  | _ => exact ⟨by simp, by simp, hsegment h⟩

theorem next_command_taken {s s' : State} {env : HandlerEnv} {swarm : Swarm}
    (h : next s (.command_taken env swarm) = some s') :
    ∃ c provided servers, HandlerLoop.command s.servers.phase = some c ∧
      NetworkEventLoop.handled swarm c s.provided = some provided ∧
      HttpProxy.next s.servers (.handler env .command_taken) = some servers ∧
      s' = { s with servers := servers, provided := provided } := by
  simp only [next] at h
  split at h
  · rename_i provided servers hprovided hservers
    obtain ⟨c, hc, hhandled⟩ := Option.bind_eq_some_iff.mp hprovided
    exact ⟨c, provided, servers, hc, hhandled, hservers, (Option.some.inj h).symm⟩
  · cases h

theorem next_server {s s' : State} {l : HttpProxy.Label} (h : next s (.server l) = some s') :
    (∀ env wake, l ≠ .handler env wake) ∧
      ∃ servers, HttpProxy.next s.servers l = some servers ∧
        s' = { s with servers := servers } := by
  cases l with
  | handler env wake => cases h
  | _ =>
    obtain ⟨servers, hservers, hs'⟩ := Option.map_eq_some_iff.mp h
    exact ⟨by simp, servers, hservers, hs'.symm⟩

/-- A server that moves on leaves the handler alone. -/
theorem server_keeps {s s' : HttpProxy.State} {l : HttpProxy.Label}
    (hl : ∀ env wake, l ≠ .handler env wake) (h : HttpProxy.next s l = some s') :
    s'.handler = s.handler ∧ s'.phase = s.phase := by
  cases HttpProxy.next_task hl h <;> exact ⟨rfl, rfl⟩

/-- What a step is to the servers. -/
inductive Move (s s' : State) : Prop where
  | handler (env : HandlerEnv) (wake : HandlerLoop.Wake)
      (hservers : HttpProxy.next s.servers (.handler env wake) = some s'.servers) : Move s s'
  | server (hhandler : s'.servers.handler = s.servers.handler)
      (hphase : s'.servers.phase = s.servers.phase) : Move s s'
  | database (db : Database) (hservers : s'.servers =
      { s.servers with handler := { s.servers.handler with db := db } }) : Move s s'

theorem next_move {s s' : State} {l : Label} (h : next s l = some s') : Move s s' := by
  cases l with
  | handler env wake =>
    obtain ⟨-, -, servers, hservers, rfl⟩ := next_handler h
    exact .handler env wake hservers
  | command_taken env swarm =>
    obtain ⟨c, provided, servers, -, -, hservers, rfl⟩ := next_command_taken h
    exact .handler env .command_taken hservers
  | server l =>
    obtain ⟨hl, servers, hservers, rfl⟩ := next_server h
    obtain ⟨hhandler, hphase⟩ := server_keeps hl hservers
    exact .server hhandler hphase
  | database db =>
    obtain rfl := Option.some.inj h
    exact .database db rfl

structure Invariant (s : State) : Prop where
  succession : HttpProxy.Succession s.servers
  control : Control s.servers.handler s.provided s.last s.servers.phase

theorem Init.invariant {s : State} (h : Init s) : Invariant s where
  succession := h.servers.succession
  control := by
    rw [h.servers.phase, h.last]
    exact ⟨fun _ => ⟨h.servers.sender, h.servers.spawned⟩, by simp, by simp,
      fun hkey => absurd hkey h.provided⟩

/-- The database plays no part. -/
theorem Control.of_db {h : HandlerLoop} {provided : Finset String}
    {last : Option LifeCycle.Event} {ph : HandlerLoop.Phase} (hc : Control h provided last ph)
    (db : Database) : Control { h with db := db } provided last ph := by
  cases ph with
  | next_event => exact Between.of_db hc db
  | respond response channel => exact Between.of_db hc db
  | handle_event event => exact ⟨hc.1.of_db db, hc.2⟩
  | start_providing key sender after =>
    cases after with
    | done => exact ⟨hc.1.of_db db, hc.2⟩
    | modify_config new => exact ⟨⟨hc.1.sender, hc.1.last⟩, hc.2⟩
  | start_providing_reply sender after =>
    cases after with
    | done => exact Between.of_db hc db
    | modify_config new => exact ⟨⟨hc.1.sender, hc.1.last⟩, hc.2⟩
  | stop_providing key after =>
    cases after with
    | done => exact Between.of_db hc db
    | modify_config new => exact ⟨⟨hc.1.sender, hc.1.last⟩, hc.2⟩
  | send_proxy_event server mode => exact ⟨⟨hc.1.sender, hc.1.last⟩, hc.2⟩
  | panicked message => trivial

theorem invariant_step {s s' : State} {l : Label} (hinv : Invariant s)
    (h : next s l = some s') : Invariant s' := by
  cases l with
  | handler env wake =>
    obtain ⟨hwake, hsend, servers, hservers, rfl⟩ := next_handler h
    refine ⟨HttpProxy.succession_step hinv.succession hservers, ?_⟩
    obtain ⟨o, ho, rfl, -⟩ := HttpProxy.next_handler hservers
    exact control_resume hinv.control hsend hwake ho
  | command_taken env swarm =>
    obtain ⟨c, provided, servers, hc, hhandled, hservers, rfl⟩ := next_command_taken h
    refine ⟨HttpProxy.succession_step hinv.succession hservers, ?_⟩
    obtain ⟨o, ho, rfl, -⟩ := HttpProxy.next_handler hservers
    exact control_command_taken hinv.control hc hhandled ho
  | server l =>
    obtain ⟨hl, servers, hservers, rfl⟩ := next_server h
    obtain ⟨hhandler, hphase⟩ := server_keeps hl hservers
    refine ⟨HttpProxy.succession_step hinv.succession hservers, ?_⟩
    show Control servers.handler s.provided s.last servers.phase
    rw [hhandler, hphase]
    exact hinv.control
  | database db =>
    obtain rfl := Option.some.inj h
    have hs := hinv.succession
    exact ⟨⟨hs.fresh, hs.older, hs.sender, hs.newest, hs.telling, hs.told⟩, hinv.control.of_db db⟩

/-! ## Section 4: A start that fails -/

/-- No proxy is up, as if none had been started. -/
structure Stopped (s : State) : Prop where
  sender : s.servers.handler.proxy_event_sender = none
  config : s.servers.handler.config.get_proxy_config = none
  provided : LifeCycle.proxy_key ∉ s.provided

/-- In this step the task of a server returns an error or panics before it
    serves. -/
def FailsToStart (server : ProxyServer) (s s' : State) : Prop :=
  ∃ mode stage stage', s.servers.tasks server = some ⟨mode, stage⟩ ∧
    (stage = .get_handler ∨ stage = .bind) ∧
    s'.servers.tasks server = some ⟨mode, stage'⟩ ∧ stage'.Ended

/-- Only a step of a server makes its start fail. -/
theorem FailsToStart.keeps {server : ProxyServer} {s s' : State} {l : Label}
    (hfail : FailsToStart server s s') (h : next s l = some s') :
    s'.servers.handler = s.servers.handler ∧ s'.servers.phase = s.servers.phase := by
  obtain ⟨mode, stage, stage', htask, hstage, htask', hended⟩ := hfail
  have hrunning : ¬ stage.Ended := by
    obtain rfl | rfl := hstage <;> exact id
  cases next_move h with
  | handler env wake hservers =>
    -- a handler leaves the stage of a task as it is
    obtain ⟨o, ho, hs', -⟩ := HttpProxy.next_handler hservers
    rw [hs'] at htask'
    obtain hnew | hold := HttpProxy.handler_step_tasks (HandlerLoop.resume_proxyMove ho) htask'
    · have hnew' : stage' = .get_handler := hnew
      rw [hnew'] at hended
      exact absurd hended id
    · cases htask.symm.trans hold
      exact absurd hended hrunning
  | server hhandler hphase => exact ⟨hhandler, hphase⟩
  | database db hservers =>
    rw [hservers] at htask'
    cases htask.symm.trans htask'
    exact absurd hended hrunning

/-- The failure itself stops nothing: the handler has the sender still, or is
    about to take the mode out of the configuration. -/
theorem FailsToStart.not_stopped {server : ProxyServer} {s s' : State} {l : Label}
    (hinv : Invariant s) (hfail : FailsToStart server s s') (h : next s l = some s') :
    ¬ Stopped s' := by
  intro hstopped
  obtain ⟨hhandler, hphase⟩ := hfail.keeps h
  obtain ⟨mode, stage, stage', htask, hstage, -, -⟩ := hfail
  have hsender : s.servers.handler.proxy_event_sender = none := hhandler ▸ hstopped.sender
  have hconfig : s.servers.handler.config.get_proxy_config = none := hhandler ▸ hstopped.config
  have hrunning : ¬ HttpProxy.Task.Stopped ⟨mode, stage⟩ := by
    obtain rfl | rfl := hstage <;> simp [HttpProxy.Task.Stopped, HttpProxy.Stage.Ended]
  cases hserver : s.servers.phase.server with
  | none => exact hrunning (hinv.succession.newest hsender hserver server _ htask)
  | some told =>
    cases hph : s.servers.phase with
    | send_proxy_event told' mode' =>
      have hcontrol := hinv.control
      rw [hph] at hcontrol
      cases hconfig.symm.trans hcontrol.2.1
    | _ =>
      rw [hph] at hserver
      cases hserver

theorem spawned_step {s s' : State} {l : Label} (hpos : 0 < s.servers.handler.spawned)
    (h : next s l = some s') : 0 < s'.servers.handler.spawned := by
  cases next_move h with
  | handler env wake hservers =>
    obtain ⟨o, ho, hs', -⟩ := HttpProxy.next_handler hservers
    have hspawned' : s'.servers.handler.spawned = o.loop.spawned := by rw [hs']; rfl
    rw [hspawned']
    cases HandlerLoop.resume_proxyMove ho with
    | start mode hsender hsender' hspawned => exact hspawned ▸ Nat.succ_pos _
    | stop told hsender hsender' hspawned => exact hspawned ▸ hpos
    | keep hsender hspawned => exact hspawned ▸ hpos
  | server hhandler hphase => exact hhandler.symm ▸ hpos
  | database db hservers =>
    rw [hservers]
    exact hpos

/-- Once a server was spawned, the last start or stop says everything. -/
theorem Between.stopped_iff {s : State}
    (hb : Between s.servers.handler s.provided s.last) (hpos : 0 < s.servers.handler.spawned) :
    Stopped s ↔ s.last = some .stop := by
  constructor
  · intro hstopped
    cases hlast : s.last with
    | none => exact absurd (hb.fresh hlast).2 hpos.ne'
    | some event =>
      cases event with
      | start mode =>
        have hsome := hb.started mode hlast
        rw [hstopped.sender] at hsome
        cases hsome
      | stop => rfl
  · intro hlast
    obtain ⟨hsender, hconfig⟩ := hb.stopped hlast
    exact ⟨hsender, hconfig, hb.not_provided hsender⟩

/-- **Failed starts.**  When the start of a server fails the proxy is not
    stopped, and from then on, whenever the handler waits for its next event, it
    is stopped if and only if the last start or stop that was handled is a stop. -/
theorem stopped_iff_of_failsToStart {t t' s : State} {l : Label} {labels : List Label}
    {server : ProxyServer} (ht : system.Reachable t) (hnext : system.next t l = some t')
    (hfail : FailsToStart server t t') (hrun : system.run t' labels = some s)
    (hphase : s.servers.phase = .next_event) :
    ¬ Stopped t' ∧ (Stopped s ↔ s.last = some .stop) := by
  have hinv : Invariant t :=
    ht.invariant (fun _ => Init.invariant) (fun _ _ _ _ => invariant_step)
  have hinv' : Invariant s :=
    system.run_invariant (fun _ _ _ => invariant_step) labels (invariant_step hinv hnext) hrun
  have hpos : 0 < t'.servers.handler.spawned := by
    obtain ⟨mode, stage, stage', htask, -, -, -⟩ := hfail
    exact spawned_step (Nat.zero_lt_of_lt (hinv.succession.fresh server _ htask)) hnext
  have hpos' : 0 < s.servers.handler.spawned :=
    system.run_invariant (J := fun u => 0 < u.servers.handler.spawned)
      (fun _ _ _ => spawned_step) labels hpos hrun
  have hbetween : Between s.servers.handler s.provided s.last := by
    have hcontrol := hinv'.control
    rw [hphase] at hcontrol
    exact hcontrol
  exact ⟨hfail.not_stopped hinv hnext, hbetween.stopped_iff hpos'⟩

section samples

/-- A node that has no mode configured. -/
def sampleState : State where
  servers := { HttpProxy.sampleState with
    handler := { HttpProxy.sampleState.handler with
      config := { OrcaNetConfig.sampleConfig with ProxyConfig := none } } }
  provided := ∅
  last := none

theorem init_sampleState : Init sampleState :=
  ⟨⟨rfl, rfl, rfl, fun _ => rfl, fun _ => rfl⟩, Finset.notMem_empty _, rfl⟩

/-- A client is started for a session that the database does not have. -/
def startRun : List Label :=
  [.handler .working (.event (.StartProxy (.ProxyClient "other"))), .handler .working .run]

def failure : Label := .server (.get_handler 0 HandlerEnv.working.toEnv fun _ => true)

def stopRun : List Label :=
  [.handler .working (.event .StopProxy), .handler .working .run,
    .handler .working .proxy_event_sent]

/-- After the failure the handler waits for its next event, and the proxy counts as started. -/
theorem not_stopped_startRun :
    Init sampleState ∧ ∃ t t', system.run sampleState startRun = some t ∧
      system.next t failure = some t' ∧ FailsToStart 0 t t' ∧
      t'.servers.phase = .next_event ∧ ¬ Stopped t' := by
  refine ⟨init_sampleState, _, _, rfl, rfl, ⟨.ProxyClient "other", .get_handler, _, rfl, Or.inl rfl,
    rfl, trivial⟩, rfl, fun hstopped => ?_⟩
  cases hstopped.sender

/-- Stopping the proxy by hand helps. -/
theorem stopped_stopRun :
    ∃ t t' s, system.run sampleState startRun = some t ∧ system.next t failure = some t' ∧
      FailsToStart 0 t t' ∧ system.run t' stopRun = some s ∧ s.servers.phase = .next_event ∧
      ¬ Stopped t' ∧ Stopped s := by
  have hrun : ∃ t t' s, system.run sampleState startRun = some t ∧
      system.next t failure = some t' ∧ FailsToStart 0 t t' ∧ system.run t' stopRun = some s ∧
      s.servers.phase = .next_event ∧ s.last = some .stop :=
    ⟨_, _, _, rfl, rfl, ⟨.ProxyClient "other", .get_handler, _, rfl, Or.inl rfl, rfl, trivial⟩, rfl,
      rfl, rfl⟩
  obtain ⟨t, t', s, hstart, hnext, hfail, hstop, hphase, hlast⟩ := hrun
  have hreachable : system.Reachable t := (System.Reachable.init init_sampleState).run _ hstart
  obtain ⟨hnot, hiff⟩ := stopped_iff_of_failsToStart hreachable hnext hfail hstop hphase
  exact ⟨t, t', s, hstart, hnext, hfail, hstop, hphase, hnot, hiff.mpr hlast⟩

end samples

end FailedStart

end OrcaNet
