import OrcaNet.Common.ConfigFile
import OrcaNet.Framework.System
import OrcaNet.HandlerLoop
import OrcaNet.Network.ProviderRecords

/-! # Proxy life cycle

    The request handler over the configuration file, while it handles
    `StartProxy` and `StopProxy`, with restarts in between.  The handler reads
    `ProxyConfig` from the file and writes it there; the proxy record is what
    the network loop made of its commands.

    `Proxy` is what all this implements: at most one mode runs, a start while
    one runs is ignored, and a restart changes nothing.  `Stage` says, for each
    point where the handler can be suspended, how far the parts have got. -/

namespace OrcaNet

open Transition OrcaNetConfig

namespace LifeCycle

/-! ## Section 1: What the handler implements -/

/-- The events that were handled, as far as the mode depends on them. -/
inductive Event where
  | start (mode : ProxyMode)
  | stop

/-- The mode that runs, if any. -/
abbrev Proxy : Type := Option ProxyMode

def Proxy.step (mode : Proxy) : Event → Proxy
  | .start new => some (mode.getD new)
  | .stop => none

/-- The mode after the events of a log, newest first: that of the first start
    since the last stop. -/
def Proxy.after (log : List Event) : Proxy := log.foldr (fun event mode => mode.step event) none

@[simp] theorem Proxy.after_nil : Proxy.after [] = none := rfl

@[simp] theorem Proxy.after_cons (event : Event) (log : List Event) :
    Proxy.after (event :: log) = (Proxy.after log).step event := rfl

/-! ## Section 2: System -/

structure State where
  handler : HandlerLoop
  phase : HandlerLoop.Phase
  /-- The configuration file. -/
  file : Json.Value
  /-- The keys of the provider records that the node keeps up. -/
  provided : Finset String
  /-- The mode of the proxy server that was spawned last. -/
  spawned : Option ProxyMode
  log : List Event

inductive Label where
  /-- A segment of the handler. -/
  | handler (env : HandlerEnv) (wake : HandlerLoop.Wake)
  /-- The network loop takes the handler's command. -/
  | command_taken (env : HandlerEnv) (swarm : Swarm)
  /-- The process restarts and `start_orca_node` sends its event. -/
  | restart

/-- The handler with what it reads from the file. -/
def State.reading (s : State) : HandlerLoop :=
  { s.handler with config := { s.handler.config with ProxyConfig := File.get_proxy_config s.file } }

/-- The file after a segment, unless it holds no object. -/
def write (file : Json.Value) : Option (Option ProxyMode) → Option Json.Value
  | some mode => File.modify_config PROXY_CONFIG_KEY (proxy_config_value mode) file
  | none => some file

/-- The state after a segment. -/
def finish (s : State) (o : HandlerLoop.Outcome) (provided : Finset String) : Option State :=
  (write s.file o.written).map fun file =>
    { s with
      handler := o.loop
      phase := o.phase
      file := file
      provided := provided
      spawned := (o.spawn.head?.map Prod.snd).or s.spawned }

/-- The proxy event that a handler takes. -/
def event_of : HandlerLoop.Wake → Option Event
  | .event (.StartProxy mode) => some (.start mode)
  | .event .StopProxy => some .stop
  | _ => none

def next (s : State) : Label → Option State
  | .handler _ .command_taken => none
  -- no other events are considered
  | .handler env (.event event) =>
    (event_of (.event event)).bind fun e =>
      (HandlerLoop.resume env s.reading s.phase (.event event)).bind fun o =>
        finish { s with log := e :: s.log } o s.provided
  | .handler env wake =>
    (HandlerLoop.resume env s.reading s.phase wake).bind fun o => finish s o s.provided
  | .command_taken env swarm =>
    (HandlerLoop.command s.phase).bind fun c =>
      (NetworkEventLoop.handled swarm c s.provided).bind fun provided =>
        (HandlerLoop.resume env s.reading s.phase .command_taken).bind fun o =>
          finish s o provided
  | .restart =>
    match s.phase with
    | .next_event =>
      some { s with
        handler := { s.handler with proxy_event_sender := none, spawned := 0 }
        phase := match File.get_proxy_config s.file with
          | some mode => .handle_event (.StartProxy mode)
          | none => .next_event
        provided := ∅
        spawned := none }
    | _ => none

/-- The key of the proxy record. -/
def proxy_key : String := Utils.get_key_with_ns PROXY_PROVIDER_KEY_DHT

/-- No proxy runs and none is announced. -/
structure Init (file₀ : Json.Value) (s : State) : Prop where
  sender : s.handler.proxy_event_sender = none
  phase : s.phase = .next_event
  file : s.file = file₀
  config : file₀.get PROXY_CONFIG_KEY = some .null
  provided : proxy_key ∉ s.provided
  log : s.log = []

/-- The system of one configuration file. -/
def system (file₀ : Json.Value) : System State Label where
  init := Init file₀
  next := next

/-! ## Section 3: The invariant -/

/-- The parts agree that `mode` runs. -/
structure Agrees (s : State) (mode : Proxy) : Prop where
  sender : s.handler.proxy_event_sender.isSome ↔ mode.isSome
  config : File.get_proxy_config s.file = mode
  spawned : ∀ m ∈ mode, s.spawned = some m
  provided : proxy_key ∈ s.provided ↔ mode = some .ProxyProvider

/-- A restarted node before it handles the event of `start_orca_node`. -/
structure Restarted (s : State) (mode : ProxyMode) : Prop where
  sender : s.handler.proxy_event_sender = none
  config : File.get_proxy_config s.file = some mode
  provided : proxy_key ∉ s.provided

/-- How far the parts have got towards `mode`. -/
def Stage (s : State) (mode : Proxy) : HandlerLoop.Phase → Prop
  | .next_event => Agrees s mode
  | .handle_event (.StartProxy new) =>
    (∃ old : Proxy, Agrees s old ∧ mode = some (old.getD new)) ∨ (Restarted s new ∧ mode = some new)
  | .handle_event .StopProxy => mode = none ∧ ∃ old, Agrees s old
  | .start_providing key _ after =>
    key = PROXY_PROVIDER_KEY_DHT ∧ after = .modify_config (some .ProxyProvider) ∧
      mode = some .ProxyProvider ∧ s.handler.proxy_event_sender.isSome ∧
      s.spawned = some .ProxyProvider
  | .start_providing_reply _ after =>
    after = .modify_config (some .ProxyProvider) ∧ mode = some .ProxyProvider ∧
      s.handler.proxy_event_sender.isSome ∧ s.spawned = some .ProxyProvider ∧
      proxy_key ∈ s.provided
  | .send_proxy_event _ old =>
    mode = none ∧ s.handler.proxy_event_sender = none ∧
      (proxy_key ∈ s.provided ↔ old = .ProxyProvider)
  | .stop_providing key after =>
    key = PROXY_PROVIDER_KEY_DHT ∧ after = .modify_config none ∧ mode = none ∧
      s.handler.proxy_event_sender = none
  | .panicked _ => True
  | .handle_event _ | .respond _ _ => False

structure Invariant (file₀ : Json.Value) (s : State) : Prop where
  stage : Stage s (Proxy.after s.log) s.phase
  others : ∀ key ≠ PROXY_CONFIG_KEY, s.file.get key = file₀.get key

/-! ## Section 4: Steps -/

theorem finish_eq_some {s s' : State} {o : HandlerLoop.Outcome} {provided : Finset String}
    (h : finish s o provided = some s') :
    ∃ file, write s.file o.written = some file ∧ s' = { s with
      handler := o.loop
      phase := o.phase
      file := file
      provided := provided
      spawned := (o.spawn.head?.map Prod.snd).or s.spawned } := by
  obtain ⟨file, hfile, hs'⟩ := Option.map_eq_some_iff.mp h
  exact ⟨file, hfile, hs'.symm⟩

theorem write_others {file file' : Json.Value} {written : Option (Option ProxyMode)}
    (h : write file written = some file') :
    ∀ key ≠ PROXY_CONFIG_KEY, file'.get key = file.get key := by
  cases written with
  | none =>
    obtain rfl := Option.some.inj h
    exact fun _ _ => rfl
  | some mode => exact (File.get_proxy_config_modify_config h).2

/-- Writing the configuration is the last thing that an event does. -/
theorem stage_finish {env : HandlerEnv} {loop : HandlerLoop} {file : Json.Value} {s' : State}
    {mode : Proxy} (hsender : loop.proxy_event_sender.isSome ↔ mode.isSome)
    (hspawned : ∀ m ∈ mode, s'.spawned = some m)
    (hprovided : proxy_key ∈ s'.provided ↔ mode = some .ProxyProvider)
    (hloop : s'.handler = (HandlerLoop.finish env loop (.modify_config mode)).loop)
    (hfile : write file (HandlerLoop.finish env loop (.modify_config mode)).written =
      some s'.file) :
    Stage s' mode (HandlerLoop.finish env loop (.modify_config mode)).phase := by
  simp only [HandlerLoop.finish] at hloop hfile ⊢
  cases hwrite : env.write_config with
  | error e => trivial
  | ok u =>
    simp only [hwrite] at hloop hfile
    refine ⟨?_, (File.get_proxy_config_modify_config hfile).1, hspawned, hprovided⟩
    rw [hloop]
    exact hsender

/-- A start is ignored exactly if a mode runs. -/
theorem Stage.start {s : State} {mode : Proxy} {new : ProxyMode}
    (h : Stage s mode (.handle_event (.StartProxy new))) :
    (s.handler.proxy_event_sender.isSome ∧ Agrees s mode) ∨
      (s.handler.proxy_event_sender = none ∧ proxy_key ∉ s.provided ∧ mode = some new) := by
  obtain ⟨old, hagrees, hmode⟩ | ⟨hrestarted, hmode⟩ := h
  · cases old with
    | some m => exact Or.inl ⟨hagrees.sender.mpr rfl, hmode ▸ hagrees⟩
    | none =>
      have hsender : s.handler.proxy_event_sender = none := by
        simpa using hagrees.sender
      exact Or.inr ⟨hsender, by simp [hagrees.provided], hmode⟩
  · exact Or.inr ⟨hrestarted.sender, hrestarted.provided, hmode⟩

theorem stage_start_proxy {s s' : State} {mode : Proxy} {new : ProxyMode} {env : HandlerEnv}
    (hstage : Stage s mode (.handle_event (.StartProxy new)))
    (h : finish s (HandlerLoop.handle_event env s.reading (.StartProxy new)) s.provided =
      some s') : Stage s' mode s'.phase := by
  obtain ⟨file, hfile, rfl⟩ := finish_eq_some h
  obtain ⟨hsome, hagrees⟩ | ⟨hnone, hprovided, rfl⟩ := hstage.start
  · obtain ⟨server, hserver⟩ := Option.isSome_iff_exists.mp hsome
    have hreading : s.reading.proxy_event_sender = some server := hserver
    simp only [HandlerLoop.handle_event, hreading] at hfile ⊢
    obtain rfl := Option.some.inj hfile
    exact ⟨hagrees.sender, hagrees.config, hagrees.spawned, hagrees.provided⟩
  · have hreading : s.reading.proxy_event_sender = none := hnone
    simp only [HandlerLoop.handle_event, hreading] at hfile ⊢
    cases new with
    | ProxyProvider => exact ⟨rfl, rfl, rfl, rfl, rfl⟩
    | ProxyClient session_id =>
      refine stage_finish (by simp) (fun m hm => ?_) (by simp [hprovided]) rfl hfile
      obtain rfl := Option.some.inj hm
      rfl

theorem stage_stop_proxy {s s' : State} {mode : Proxy} {env : HandlerEnv}
    (hstage : Stage s mode (.handle_event .StopProxy))
    (h : finish s (HandlerLoop.handle_event env s.reading .StopProxy) s.provided = some s') :
    Stage s' mode s'.phase := by
  obtain ⟨file, hfile, rfl⟩ := finish_eq_some h
  obtain ⟨rfl, old, hagrees⟩ := hstage
  have hreading : s.reading.config.get_proxy_config = old := hagrees.config
  cases old with
  | none =>
    simp only [HandlerLoop.handle_event, hreading]
    trivial
  | some m =>
    obtain ⟨server, hserver⟩ := Option.isSome_iff_exists.mp (hagrees.sender.mpr rfl)
    have hsender : s.reading.proxy_event_sender = some server := hserver
    simp only [HandlerLoop.handle_event, hreading, hsender]
    exact ⟨rfl, rfl, by simp [hagrees.provided]⟩

/-- A segment that neither takes an event nor has a command taken. -/
theorem stage_resume {s s' : State} {mode : Proxy} {ph : HandlerLoop.Phase} {env : HandlerEnv}
    {wake : HandlerLoop.Wake} {o : HandlerLoop.Outcome} (hstage : Stage s mode ph)
    (ho : HandlerLoop.resume env s.reading ph wake = some o)
    (hcommand : wake ≠ .command_taken) (hevent : ∀ event, wake ≠ .event event)
    (h : finish s o s.provided = some s') : Stage s' mode s'.phase := by
  unfold HandlerLoop.resume at ho
  split at ho
  case h_1 event => exact absurd rfl (hevent event)
  case h_3 event =>
    obtain rfl := Option.some.inj ho
    -- only a start or a stop of the proxy gets a stage at all
    cases event with
    | StartProxy new => exact stage_start_proxy hstage h
    | StopProxy => exact stage_stop_proxy hstage h
    | _ => exact absurd hstage id
  case h_4 | h_5 | h_6 => exact absurd rfl hcommand
  case h_7 sender after =>
    obtain rfl := Option.some.inj ho
    obtain ⟨rfl, rfl, hsender, hspawned, hprovided⟩ := hstage
    obtain ⟨file, hfile, rfl⟩ := finish_eq_some h
    refine stage_finish ⟨fun _ => rfl, fun _ => hsender⟩ (fun m hm => ?_)
      (by simp [hprovided]) rfl hfile
    obtain rfl := Option.some.inj hm
    simp only [HandlerLoop.finish]
    split <;> exact hspawned
  case h_9 server old =>
    obtain rfl := Option.some.inj ho
    obtain ⟨rfl, hsender, hprovided⟩ := hstage
    obtain ⟨file, hfile, rfl⟩ := finish_eq_some h
    cases old with
    -- a provider's record is withdrawn next; a client's stop is done
    | ProxyProvider => exact ⟨rfl, rfl, rfl, hsender⟩
    | ProxyClient session_id =>
      refine stage_finish ?_ (fun m hm => ?_) (by simpa using hprovided) rfl hfile
      · show s.handler.proxy_event_sender.isSome ↔ _
        simp [hsender]
      · cases hm
  case h_13 => cases ho
  all_goals
    obtain rfl := Option.some.inj ho
    obtain ⟨file, hfile, rfl⟩ := finish_eq_some h
    trivial

theorem stage_command_taken {s s' : State} {mode : Proxy} {env : HandlerEnv} {swarm : Swarm}
    (hstage : Stage s mode s.phase) (h : next s (.command_taken env swarm) = some s') :
    Stage s' mode s'.phase := by
  obtain ⟨c, hc, h⟩ := Option.bind_eq_some_iff.mp h
  obtain ⟨provided, hhandled, h⟩ := Option.bind_eq_some_iff.mp h
  obtain ⟨o, ho, h⟩ := Option.bind_eq_some_iff.mp h
  obtain ⟨file, hfile, rfl⟩ := finish_eq_some h
  cases hph : s.phase with
  | start_providing key sender after =>
    rw [hph] at hc hstage ho
    cases hc
    obtain rfl := Option.some.inj ho
    obtain ⟨rfl, rfl, rfl, hsender, hspawned⟩ := hstage
    have hprovided := NetworkEventLoop.handled_start_providing hhandled
    -- the record of proxies is there from now on
    refine ⟨rfl, rfl, hsender, hspawned, ?_⟩
    rw [hprovided]
    exact Finset.mem_insert_self _ _
  | stop_providing key after =>
    rw [hph] at hc hstage ho
    cases hc
    obtain rfl := Option.some.inj ho
    obtain ⟨rfl, rfl, rfl, hsender⟩ := hstage
    have hprovided := NetworkEventLoop.handled_stop_providing hhandled
    -- the record is gone, and the segment runs on to the configuration file
    refine stage_finish ?_ (fun m hm => ?_) ?_ rfl hfile
    · show s.handler.proxy_event_sender.isSome ↔ _
      simp [hsender]
    · cases hm
    · rw [hprovided]
      simp [proxy_key]
  | respond response channel =>
    rw [hph] at hstage
    exact absurd hstage id
  | _ =>
    rw [hph] at hc
    cases hc

theorem next_handler {s s' : State} {env : HandlerEnv} {wake : HandlerLoop.Wake}
    (h : next s (.handler env wake) = some s') :
    (∃ event e o, wake = .event event ∧ event_of wake = some e ∧
      HandlerLoop.resume env s.reading s.phase wake = some o ∧
      finish { s with log := e :: s.log } o s.provided = some s') ∨
    (wake ≠ .command_taken ∧ (∀ event, wake ≠ .event event) ∧
      ∃ o, HandlerLoop.resume env s.reading s.phase wake = some o ∧
        finish s o s.provided = some s') := by
  cases wake with
  | command_taken => cases h
  | event event =>
    obtain ⟨e, he, h⟩ := Option.bind_eq_some_iff.mp h
    obtain ⟨o, ho, h⟩ := Option.bind_eq_some_iff.mp h
    exact Or.inl ⟨event, e, o, rfl, he, ho, h⟩
  | _ =>
    obtain ⟨o, ho, h⟩ := Option.bind_eq_some_iff.mp h
    exact Or.inr ⟨nofun, nofun, o, ho, h⟩

/-- The handler takes an event. -/
theorem stage_event {s s' : State} {env : HandlerEnv} {event : OrcaNetEvent} {e : Event}
    {o : HandlerLoop.Outcome} (hstage : Stage s (Proxy.after s.log) s.phase)
    (he : event_of (.event event) = some e)
    (ho : HandlerLoop.resume env s.reading s.phase (.event event) = some o)
    (h : finish { s with log := e :: s.log } o s.provided = some s') :
    Stage s' (Proxy.after s'.log) s'.phase := by
  obtain ⟨file, hfile, rfl⟩ := finish_eq_some h
  cases hph : s.phase with
  | next_event =>
    rw [hph] at ho hstage
    obtain rfl := Option.some.inj ho
    obtain rfl := Option.some.inj hfile
    have hagrees : Agrees s (Proxy.after s.log) := hstage
    cases event with
    | StartProxy new =>
      obtain rfl := Option.some.inj he
      exact Or.inl ⟨_, ⟨hagrees.sender, hagrees.config, hagrees.spawned, hagrees.provided⟩, rfl⟩
    | StopProxy =>
      obtain rfl := Option.some.inj he
      exact ⟨rfl, _, ⟨hagrees.sender, hagrees.config, hagrees.spawned, hagrees.provided⟩⟩
    | _ => cases he
  | _ =>
    rw [hph] at ho
    cases ho

/-- The node restarts with the file as it is. -/
theorem invariant_restart {file₀ : Json.Value} {s s' : State} (hinv : Invariant file₀ s)
    (h : next s .restart = some s') : Invariant file₀ s' := by
  simp only [next] at h
  split at h
  · rename_i hph
    obtain rfl := Option.some.inj h
    have hagrees : Agrees s (Proxy.after s.log) := by
      have hstage := hinv.stage
      rw [hph] at hstage
      exact hstage
    refine ⟨?_, hinv.others⟩
    cases hmode : File.get_proxy_config s.file with
    | none =>
      have hnone : Proxy.after s.log = none := hagrees.config.symm.trans hmode
      refine ⟨?_, hagrees.config, ?_, ?_⟩ <;> simp [hnone]
    | some mode =>
      have hsome : Proxy.after s.log = some mode := hagrees.config.symm.trans hmode
      exact Or.inr ⟨⟨rfl, hmode, Finset.notMem_empty _⟩, hsome⟩
  · cases h

theorem invariant_step {file₀ : Json.Value} {s s' : State} {l : Label}
    (hinv : Invariant file₀ s) (h : next s l = some s') : Invariant file₀ s' := by
  cases l with
  | handler env wake =>
    obtain ⟨event, e, o, rfl, he, ho, h⟩ | ⟨hcommand, hevent, o, ho, h⟩ := next_handler h
    · refine ⟨stage_event hinv.stage he ho h, ?_⟩
      obtain ⟨file, hfile, rfl⟩ := finish_eq_some h
      exact fun key hkey => (write_others hfile key hkey).trans (hinv.others key hkey)
    · have hlog : s'.log = s.log := by
        obtain ⟨file, -, rfl⟩ := finish_eq_some h
        rfl
      refine ⟨hlog ▸ stage_resume hinv.stage ho hcommand hevent h, ?_⟩
      obtain ⟨file, hfile, rfl⟩ := finish_eq_some h
      exact fun key hkey => (write_others hfile key hkey).trans (hinv.others key hkey)
  | command_taken env swarm =>
    have hstage := stage_command_taken hinv.stage h
    obtain ⟨c, -, h⟩ := Option.bind_eq_some_iff.mp h
    obtain ⟨provided, -, h⟩ := Option.bind_eq_some_iff.mp h
    obtain ⟨o, -, h⟩ := Option.bind_eq_some_iff.mp h
    obtain ⟨file, hfile, rfl⟩ := finish_eq_some h
    exact ⟨hstage, fun key hkey => (write_others hfile key hkey).trans (hinv.others key hkey)⟩
  | restart => exact invariant_restart hinv h

theorem Init.invariant {file₀ : Json.Value} {s : State} (h : Init file₀ s) :
    Invariant file₀ s where
  stage := by
    rw [h.phase, h.log]
    have hconfig : File.get_proxy_config s.file = none := by
      rw [h.file, File.get_proxy_config, h.config]
      exact ProxyMode.from_value_null
    exact ⟨by simp [h.sender], hconfig, by simp, by simp [h.provided]⟩
  others := by
    rw [h.file]
    exact fun _ _ => rfl

/-! ## Section 5: Runs -/

/-- What holds after every event. -/
structure Running (file₀ : Json.Value) (s : State) : Prop where
  sender : s.handler.proxy_event_sender.isSome ↔ ∃ mode, File.get_proxy_config s.file = some mode
  config : File.get_proxy_config s.file = Proxy.after s.log
  spawned : ∀ mode, File.get_proxy_config s.file = some mode → s.spawned = some mode
  provided : proxy_key ∈ s.provided ↔ File.get_proxy_config s.file = some .ProxyProvider
  others : ∀ key ≠ PROXY_CONFIG_KEY, s.file.get key = file₀.get key

/-- A restart and the event that `start_orca_node` sends, handled without a
    failure. -/
def restartRun (env : HandlerEnv) (swarm : Swarm) : ProxyMode → List Label
  | .ProxyProvider =>
    [.restart, .handler env .run, .command_taken env swarm, .handler env (.reply true)]
  | .ProxyClient _ => [.restart, .handler env .run]

theorem run_restartRun {file₀ : Json.Value} {s : State} {mode : ProxyMode}
    (hph : s.phase = .next_event) (hmode : File.get_proxy_config s.file = some mode)
    {env : HandlerEnv} {swarm : Swarm} {query_id : kad.QueryId}
    (hwrite : env.write_config = .ok ()) (hstart : swarm.start_providing = .ok query_id) :
    ∃ u, (system file₀).run s (restartRun env swarm mode) = some u ∧ u.phase = .next_event ∧
      u.log = s.log := by
  have hobject : (s.file.get PROXY_CONFIG_KEY).isSome := by
    unfold File.get_proxy_config at hmode
    obtain ⟨value, hvalue, -⟩ := Option.bind_eq_some_iff.mp hmode
    simp [hvalue]
  obtain ⟨file, hfile⟩ := Option.isSome_iff_exists.mp
    (Json.Value.insert_isSome_of_get hobject PROXY_CONFIG_KEY (proxy_config_value (some mode)))
  have hwritten : File.modify_config PROXY_CONFIG_KEY (proxy_config_value (some mode)) s.file =
    some file := hfile
  cases mode with
  | ProxyProvider =>
    simp [restartRun, system, next, hph, hmode, HandlerLoop.resume, HandlerLoop.handle_event,
      HandlerLoop.finish, HandlerLoop.suspend, State.reading, hwrite, finish, hwritten,
      HandlerLoop.command, NetworkEventLoop.handled, NetworkEventLoop.handle_command, hstart, write]
  | ProxyClient session_id =>
    simp [restartRun, system, next, hph, hmode, HandlerLoop.resume, HandlerLoop.handle_event,
      HandlerLoop.finish, HandlerLoop.suspend, State.reading, hwrite, finish, hwritten, write]

/-- After a restart that nothing prevents, the mode of before runs. -/
def Resumes (file₀ : Json.Value) (s : State) : Prop :=
  ∀ mode env swarm query_id, File.get_proxy_config s.file = some mode →
    env.write_config = .ok () → swarm.start_providing = .ok query_id →
    ∃ u, (system file₀).run s (restartRun env swarm mode) = some u ∧ u.phase = .next_event ∧
      u.handler.proxy_event_sender.isSome ∧ u.spawned = some mode ∧
      File.get_proxy_config u.file = some mode

theorem running_of_invariant {file₀ : Json.Value} {s : State} (hinv : Invariant file₀ s)
    (hph : s.phase = .next_event) : Running file₀ s := by
  have hagrees : Agrees s (Proxy.after s.log) := by
    have hstage := hinv.stage
    rw [hph] at hstage
    exact hstage
  refine ⟨?_, hagrees.config, ?_, ?_, hinv.others⟩
  · rw [hagrees.config, hagrees.sender]
    exact Option.isSome_iff_exists
  · intro mode hmode
    exact hagrees.spawned mode (hagrees.config.symm.trans hmode)
  · rw [hagrees.config]
    exact hagrees.provided

/-- **Proxy life cycle.**  In every run, restarts included, after every event
    the proxy runs, is configured and is announced as the events say; and the
    mode survives a restart. -/
theorem resumes_of_reachable {file₀ : Json.Value} {s : State} (h : (system file₀).Reachable s)
    (hph : s.phase = .next_event) : Running file₀ s ∧ Resumes file₀ s := by
  have hinv : Invariant file₀ s :=
    h.invariant (fun _ => Init.invariant) (fun _ _ _ _ => invariant_step)
  have hrunning := running_of_invariant hinv hph
  refine ⟨hrunning, ?_⟩
  intro mode env swarm query_id hmode hwrite hstart
  obtain ⟨u, hrun, huph, hlog⟩ := run_restartRun hph hmode hwrite hstart
  have hinv' : Invariant file₀ u :=
    (system file₀).run_invariant (fun _ _ _ => invariant_step) _ hinv hrun
  have hrunning' := running_of_invariant hinv' huph
  -- the restart handled no new event
  have hmode' : File.get_proxy_config u.file = some mode := by
    rw [hrunning'.config, hlog, ← hrunning.config, hmode]
  exact ⟨u, hrun, huph, hrunning'.sender.mpr ⟨mode, hmode'⟩, hrunning'.spawned mode hmode', hmode'⟩

section samples

def sampleConfigFile : Json.Value :=
  .object [("BTCAddress", .string "address"), ("ProxyConfig", .null)]

def sampleState : State where
  handler := ⟨.empty, .sampleConfig, none, 0⟩
  phase := .next_event
  file := sampleConfigFile
  provided := ∅
  spawned := none
  log := []

/-- A provider runs until it is stopped, then a client. -/
def sampleLabels : List Label :=
  [.handler .working (.event (.StartProxy .ProxyProvider)), .handler .working .run,
    .command_taken .working sampleSwarm, .handler .working (.reply true),
    .handler .working (.event .StopProxy), .handler .working .run,
    .handler .working .proxy_event_sent, .command_taken .working sampleSwarm,
    .handler .working (.event (.StartProxy (.ProxyClient "sess1"))), .handler .working .run]

theorem running_sampleLabels :
    ∃ u, (system sampleConfigFile).run sampleState sampleLabels = some u ∧
      Running sampleConfigFile u ∧ Resumes sampleConfigFile u := by
  have hinit : (system sampleConfigFile).Reachable sampleState :=
    .init ⟨rfl, rfl, rfl, rfl, Finset.notMem_empty _, rfl⟩
  obtain ⟨u, hrun, hph⟩ : ∃ u, (system sampleConfigFile).run sampleState sampleLabels = some u ∧
      u.phase = .next_event := ⟨_, rfl, rfl⟩
  exact ⟨u, hrun, resumes_of_reachable (hinit.run sampleLabels hrun) hph⟩

end samples

end LifeCycle

end OrcaNet
