import OrcaNet.Framework.System
import OrcaNet.HttpServer.ProxyEndpoints

/-! # Starts and stops of the proxy

    The request handler with all that may start or stop its proxy: any number
    of requests to the HTTP server, the terminal, and the start of the node.
    Their events go through one channel, which the handler reads in order;
    between a look at the configuration and the event that follows it anything
    may happen.

    The order of the events decides everything: `live` says what the last start
    or stop in the log was, and `Control` that the handler follows it. -/

namespace OrcaNet

open Transition ProxyEndpoints

namespace StartStop

/-! ## Section 1: System -/

/-- Who sends an event. -/
inductive Source where
  | http (n : ℕ)
  /-- `start_orca_node`, and then the terminal. -/
  | main
  /-- Other endpoints and the network loop, with events of their own. -/
  | other
  deriving DecidableEq

structure Task where
  call : Call
  stage : Stage

/-- An event that the handler took, with the mode that was configured and the
    proxy server that was started. -/
structure Handled where
  source : Source
  event : OrcaNetEvent
  config : Option ProxyMode
  spawn : List (ProxyServer × ProxyMode)

structure State where
  handler : HandlerLoop
  phase : HandlerLoop.Phase
  task : Source → Option Task
  /-- The channel of the handler. -/
  queue : List (Source × OrcaNetEvent)
  /-- The events that were taken, newest first. -/
  handled : List Handled

inductive Label where
  /-- A request arrives. -/
  | request (n : ℕ) (call : Call)
  /-- A line is read from the terminal. -/
  | line (call : Call)
  /-- A call looks at the configuration. -/
  | check (source : Source) (env : Env)
  /-- The provider's response reaches `connect`. -/
  | response (n : ℕ) (env : Env) (fault : Option String)
      (provide_resp : Except String (OrcaNetResponse F64))
  /-- A call puts its event in the channel, or finds it closed. -/
  | send (source : Source)
  /-- A call goes on once its event was taken or the channel is closed. -/
  | sent (source : Source)
  | other_event (event : OrcaNetEvent)
  /-- The handler takes an event and handles it up to its first wait. -/
  | take_event (env : HandlerEnv)
  /-- Any other segment of the handler. -/
  | handler (env : HandlerEnv) (wake : HandlerLoop.Wake)

def set_task (s : State) (source : Source) (call : Call) (stage : Stage) : State :=
  { s with task := Function.update s.task source (some ⟨call, stage⟩) }

/-- The handler is gone, and its end of the channel with it. -/
def ended : HandlerLoop.Phase → Bool
  | .panicked _ => true
  | _ => false

/-- The event starts or stops the proxy. -/
def is_control : OrcaNetEvent → Bool
  | .StartProxy _ | .StopProxy => true
  | _ => false

def next (s : State) : Label → Option State
  | .request n call =>
    match s.task (.http n) with
    | none => if call.is_request then some (set_task s (.http n) call .called) else none
    | some _ => none
  | .line call =>
    match s.task .main with
    | some ⟨_, .finished _⟩ => if call.is_line then some (set_task s .main call .called) else none
    | _ => none
  | .check source env =>
    match s.task source with
    | some ⟨call, .called⟩ =>
      some (set_task s source call (begin_call env s.handler.config.get_proxy_config call))
    | _ => none
  | .response n env fault provide_resp =>
    match s.task (.http n) with
    | some ⟨.connect peer_id, .send_request _⟩ =>
      let (stage, db) := connect_response env fault peer_id provide_resp s.handler.db
      some (set_task { s with handler := { s.handler with db := db } } (.http n)
        (.connect peer_id) stage)
    | _ => none
  | .send source =>
    match s.task source with
    | some ⟨call, .send event rest⟩ =>
      if ended s.phase then some (set_task s source call rest.fail)
      else some (set_task { s with queue := s.queue ++ [(source, event)] } source call
        (.sent event rest))
    | _ => none
  | .sent source =>
    match s.task source with
    | some ⟨call, .sent _ rest⟩ =>
      if source ∈ s.queue.map Prod.fst ∧ ended s.phase = false then none
      else some (set_task s source call (.finished rest.answer))
    | _ => none
  | .other_event event =>
    if is_control event then none else some { s with queue := s.queue ++ [(.other, event)] }
  | .take_event env =>
    match s.phase, s.queue with
    | .next_event, (source, event) :: queue =>
      let o := HandlerLoop.handle_event env s.handler event
      some { s with
        handler := o.loop
        phase := o.phase
        queue := queue
        handled := ⟨source, event, s.handler.config.get_proxy_config, o.spawn⟩ :: s.handled }
    | _, _ => none
  | .handler _ (.event _) => none
  | .handler env wake =>
    (HandlerLoop.resume env s.handler s.phase wake).map fun o =>
      { s with handler := o.loop, phase := o.phase }

/-- A node at its start, with the mode that its configuration holds. -/
structure Init (mode : Option ProxyMode) (s : State) : Prop where
  sender : s.handler.proxy_event_sender = none
  config : s.handler.config.get_proxy_config = mode
  phase : s.phase = .next_event
  main : s.task .main = some ⟨.start_orca_node, .called⟩
  others : ∀ source, source ≠ .main → s.task source = none
  queue : s.queue = []
  handled : s.handled = []

def system (mode : Option ProxyMode) : System State Label where
  init := Init mode
  next := next

/-! ## Section 2: The handler follows the events -/

/-- Whether the last start or stop was a start. -/
def live (initial : Bool) : List OrcaNetEvent → Bool
  | [] => initial
  | .StartProxy _ :: _ => true
  | .StopProxy :: _ => false
  | _ :: log => live initial log

theorem live_of_not_control {event : OrcaNetEvent} (h : is_control event = false)
    (initial : Bool) (log : List OrcaNetEvent) :
    live initial (event :: log) = live initial log := by
  cases event <;> first | rfl | cases h

/-- The events that were taken, newest first. -/
def log (s : State) : List OrcaNetEvent := s.handled.map Handled.event

/-- Between two events: a proxy server runs after a start, and a mode is
    configured after a start, or from the beginning. -/
structure Idle (mode : Option ProxyMode) (s : State) : Prop where
  sender : s.handler.proxy_event_sender.isSome = live false (log s)
  config : s.handler.config.get_proxy_config.isSome = live mode.isSome (log s)

/-- Before the write of `new` to the configuration. -/
structure Due (mode new : Option ProxyMode) (s : State) : Prop where
  sender : s.handler.proxy_event_sender.isSome = new.isSome
  live_false : live false (log s) = new.isSome
  live_mode : live mode.isSome (log s) = new.isSome

def AfterCall (mode : Option ProxyMode) (s : State) : HandlerLoop.After → Prop
  | .done => Idle mode s
  | .modify_config new => Due mode new s

def Control (mode : Option ProxyMode) (s : State) : HandlerLoop.Phase → Prop
  | .next_event => Idle mode s
  | .respond _ _ => Idle mode s
  | .start_providing _ _ after => AfterCall mode s after
  | .start_providing_reply _ after => AfterCall mode s after
  | .stop_providing _ after => AfterCall mode s after
  | .send_proxy_event _ _ => Due mode none s
  | .handle_event _ => False
  | .panicked _ => True

theorem control_finish {mode : Option ProxyMode} {s s' : State} {env : HandlerEnv}
    {after : HandlerLoop.After} (h : AfterCall mode s after)
    (hhandler : s'.handler = (HandlerLoop.finish env s.handler after).loop)
    (hhandled : s'.handled = s.handled) :
    Control mode s' (HandlerLoop.finish env s.handler after).phase := by
  have hlog : log s' = log s := congrArg (List.map Handled.event) hhandled
  cases after with
  | done =>
    refine ⟨?_, ?_⟩ <;> rw [hhandler, hlog]
    · exact h.sender
    · exact h.config
  | modify_config new =>
    simp only [HandlerLoop.finish] at hhandler ⊢
    cases hwrite : env.write_config with
    | error e => trivial
    | ok u =>
      simp only [hwrite] at hhandler
      refine ⟨?_, ?_⟩ <;> rw [hhandler, hlog]
      · exact h.sender.trans h.live_false.symm
      · exact h.live_mode.symm

theorem live_of_live_false {events : List OrcaNetEvent} (h : live false events = true)
    (initial : Bool) : live initial events = true := by
  induction events with
  | nil => cases h
  | cons event events ih =>
    cases hcontrol : is_control event with
    | false =>
      rw [live_of_not_control hcontrol] at h ⊢
      exact ih h
    | true => cases event <;> first | rfl | cases h | cases hcontrol

/-- Where an event that neither starts nor stops the proxy ends. -/
def Apart : HandlerLoop.Phase → Prop
  | .next_event | .respond _ _ | .panicked _ => True
  | .start_providing _ _ after | .stop_providing _ after => after = .done
  | _ => False

/-- An event that neither starts nor stops the proxy leaves it alone. -/
theorem handle_event_of_not_control (env : HandlerEnv) (s : HandlerLoop) {event : OrcaNetEvent}
    (h : is_control event = false) :
    (HandlerLoop.handle_event env s event).loop.proxy_event_sender = s.proxy_event_sender ∧
      (HandlerLoop.handle_event env s event).loop.config = s.config ∧
      Apart (HandlerLoop.handle_event env s event).phase := by
  have hhandled := HandlerLoop.handle_event_handled env s event
  generalize HandlerLoop.handle_event env s event = o at hhandled ⊢
  cases hhandled with
  | running | start_provider | start_client | tell | stop => cases h
  | start_providing db => exact ⟨rfl, rfl, rfl⟩
  | stop_providing db => exact ⟨rfl, rfl, rfl⟩
  | _ => exact ⟨rfl, rfl, trivial⟩

theorem control_of_apart {mode : Option ProxyMode} {s : State} {ph : HandlerLoop.Phase}
    (hidle : Idle mode s) (h : Apart ph) : Control mode s ph := by
  cases ph with
  | start_providing key sender after =>
    obtain rfl : after = .done := h
    exact hidle
  | stop_providing key after =>
    obtain rfl : after = .done := h
    exact hidle
  | next_event => exact hidle
  | respond response channel => exact hidle
  | panicked message => trivial
  | _ => exact absurd h id

theorem control_other {mode : Option ProxyMode} {s s' : State} {env : HandlerEnv}
    {event : OrcaNetEvent} (hidle : Idle mode s) (hevent : is_control event = false)
    (hhandler : s'.handler = (HandlerLoop.handle_event env s.handler event).loop)
    (hlog : log s' = event :: log s) :
    Control mode s' (HandlerLoop.handle_event env s.handler event).phase := by
  obtain ⟨hsender, hconfig, hapart⟩ := handle_event_of_not_control env s.handler hevent
  refine control_of_apart ⟨?_, ?_⟩ hapart <;> rw [hhandler, hlog, live_of_not_control hevent]
  · rw [hsender]
    exact hidle.sender
  · rw [hconfig]
    exact hidle.config

theorem control_start {mode : Option ProxyMode} {s s' : State} {env : HandlerEnv}
    {new : ProxyMode} (hidle : Idle mode s)
    (hhandler : s'.handler = (HandlerLoop.handle_event env s.handler (.StartProxy new)).loop)
    (hlog : log s' = .StartProxy new :: log s) :
    Control mode s' (HandlerLoop.handle_event env s.handler (.StartProxy new)).phase := by
  have hlive : ∀ initial, live initial (log s') = true := fun initial => by rw [hlog]; rfl
  have hhandled := HandlerLoop.handle_event_handled env s.handler (.StartProxy new)
  generalize HandlerLoop.handle_event env s.handler (.StartProxy new) = o at hhandled hhandler ⊢
  cases hhandled with
  | panicked message db => trivial
  | running server hsender =>
    -- the start is ignored, and a mode is configured already
    have hrunning : live false (log s) = true := by rw [← hidle.sender, hsender]; rfl
    refine ⟨?_, ?_⟩ <;> rw [hhandler, hlive]
    · exact congrArg Option.isSome hsender
    · exact hidle.config.trans (live_of_live_false hrunning _)
  | start_provider hsender => exact ⟨by rw [hhandler]; rfl, hlive _, hlive _⟩
  | start_client hsender =>
    exact control_finish (s := { s' with
        handler := { s.handler with
          proxy_event_sender := some s.handler.spawned
          spawned := s.handler.spawned + 1 } })
      ⟨rfl, hlive _, hlive _⟩ hhandler rfl

theorem control_stop {mode : Option ProxyMode} {s s' : State} {env : HandlerEnv}
    (hhandler : s'.handler = (HandlerLoop.handle_event env s.handler .StopProxy).loop)
    (hlog : log s' = .StopProxy :: log s) :
    Control mode s' (HandlerLoop.handle_event env s.handler .StopProxy).phase := by
  have hlive : ∀ initial, live initial (log s') = false := fun initial => by rw [hlog]; rfl
  have hhandled := HandlerLoop.handle_event_handled env s.handler .StopProxy
  generalize HandlerLoop.handle_event env s.handler .StopProxy = o at hhandled hhandler ⊢
  cases hhandled with
  | panicked message db => trivial
  | tell server hconfig hsender => exact ⟨by rw [hhandler]; rfl, hlive _, hlive _⟩
  | @stop old hconfig hsender =>
    cases old with
    | ProxyProvider =>
      have hnone : s'.handler.proxy_event_sender = none := by rw [hhandler]; exact hsender
      exact ⟨by simp [hnone], hlive _, hlive _⟩
    | ProxyClient session_id =>
      exact control_finish (s := { s' with handler := s.handler })
        ⟨by simp [hsender], hlive _, hlive _⟩ hhandler rfl

/-- The proxy is left alone, and no event was taken. -/
structure KeepsProxy (s s' : State) : Prop where
  sender : s'.handler.proxy_event_sender = s.handler.proxy_event_sender
  config : s'.handler.config = s.handler.config
  handled : s'.handled = s.handled

theorem Idle.keep {mode : Option ProxyMode} {s s' : State} (h : Idle mode s)
    (hkeeps : KeepsProxy s s') : Idle mode s' := by
  refine ⟨?_, ?_⟩ <;> rw [log, hkeeps.handled]
  · rw [hkeeps.sender]
    exact h.sender
  · rw [hkeeps.config]
    exact h.config

theorem Due.keep {mode new : Option ProxyMode} {s s' : State} (h : Due mode new s)
    (hkeeps : KeepsProxy s s') : Due mode new s' := by
  refine ⟨?_, ?_, ?_⟩
  · rw [hkeeps.sender]
    exact h.sender
  · rw [log, hkeeps.handled]
    exact h.live_false
  · rw [log, hkeeps.handled]
    exact h.live_mode

theorem AfterCall.keep {mode : Option ProxyMode} {s s' : State} {after : HandlerLoop.After}
    (h : AfterCall mode s after) (hkeeps : KeepsProxy s s') : AfterCall mode s' after := by
  cases after with
  | done => exact Idle.keep h hkeeps
  | modify_config new => exact Due.keep h hkeeps

theorem control_keep {mode : Option ProxyMode} {s s' : State} {ph : HandlerLoop.Phase}
    (h : Control mode s ph) (hkeeps : KeepsProxy s s') : Control mode s' ph := by
  cases ph with
  | next_event => exact Idle.keep h hkeeps
  | respond response channel => exact Idle.keep h hkeeps
  | start_providing key sender after => exact AfterCall.keep h hkeeps
  | start_providing_reply sender after => exact AfterCall.keep h hkeeps
  | stop_providing key after => exact AfterCall.keep h hkeeps
  | send_proxy_event server old => exact Due.keep h hkeeps
  | handle_event event => exact h
  | panicked message => trivial

theorem control_take_event {mode : Option ProxyMode} {s s' : State} {env : HandlerEnv}
    (hinv : Control mode s s.phase) (h : next s (.take_event env) = some s') :
    Control mode s' s'.phase := by
  simp only [next] at h
  split at h
  · rename_i source event queue hph hqueue
    obtain rfl := Option.some.inj h
    have hidle : Idle mode s := by rwa [hph] at hinv
    cases hcontrol : is_control event with
    | false => exact control_other hidle hcontrol rfl rfl
    | true =>
      cases event with
      | StartProxy new => exact control_start hidle rfl rfl
      | StopProxy => exact control_stop rfl rfl
      | _ => cases hcontrol
  · cases h

theorem control_handler {mode : Option ProxyMode} {s s' : State} {env : HandlerEnv}
    {wake : HandlerLoop.Wake} (hinv : Control mode s s.phase)
    (h : next s (.handler env wake) = some s') : Control mode s' s'.phase := by
  have hresume : ∃ o, HandlerLoop.resume env s.handler s.phase wake = some o ∧
      (∀ event, wake ≠ .event event) ∧ s' = { s with handler := o.loop, phase := o.phase } := by
    cases wake with
    | event event => cases h
    | _ =>
      obtain ⟨o, ho, hs'⟩ := Option.map_eq_some_iff.mp h
      exact ⟨o, ho, by simp, hs'.symm⟩
  obtain ⟨o, ho, hevent, rfl⟩ := hresume
  show Control mode _ o.phase
  generalize hph : s.phase = ph at ho hinv
  unfold HandlerLoop.resume at ho
  split at ho
  case h_1 event => exact absurd rfl (hevent event)
  case h_3 event => exact absurd hinv id
  case h_6 key after | h_7 key after =>
    obtain rfl := Option.some.inj ho
    exact control_finish hinv rfl rfl
  case h_9 server old =>
    obtain rfl := Option.some.inj ho
    have hdue : Due mode none s := hinv
    -- a provider's record goes first; a client's stop is done
    cases old with
    | ProxyProvider => exact ⟨hdue.sender, hdue.live_false, hdue.live_mode⟩
    | ProxyClient session_id =>
      have hafter : AfterCall mode s (.modify_config none) := hdue
      exact control_finish hafter rfl rfl
  case h_13 => cases ho
  all_goals
    obtain rfl := Option.some.inj ho
    first
    | trivial
    | exact Idle.keep hinv ⟨rfl, rfl, rfl⟩
    | exact AfterCall.keep hinv ⟨rfl, rfl, rfl⟩

/-- A step that is none of the handler's. -/
theorem keepsProxy_of_next {s s' : State} {l : Label} (h : next s l = some s')
    (htake : ∀ env, l ≠ .take_event env) (hhandler : ∀ env wake, l ≠ .handler env wake) :
    KeepsProxy s s' ∧ s'.phase = s.phase := by
  cases l with
  | take_event env => exact absurd rfl (htake env)
  | handler env wake => exact absurd rfl (hhandler env wake)
  | _ =>
    simp only [next] at h
    repeat' split at h
    all_goals first
      | cases h; done
      | obtain rfl := Option.some.inj h
        exact ⟨⟨rfl, rfl, rfl⟩, rfl⟩

theorem control_step {mode : Option ProxyMode} {s s' : State} {l : Label}
    (hinv : Control mode s s.phase) (h : next s l = some s') : Control mode s' s'.phase := by
  by_cases htake : ∃ env, l = .take_event env
  · obtain ⟨env, rfl⟩ := htake
    exact control_take_event hinv h
  · by_cases hhandler : ∃ env wake, l = .handler env wake
    · obtain ⟨env, wake, rfl⟩ := hhandler
      exact control_handler hinv h
    · rw [not_exists] at htake
      obtain ⟨hkeeps, hph⟩ :=
        keepsProxy_of_next h htake fun env wake heq => hhandler ⟨env, wake, heq⟩
      rw [hph]
      exact control_keep hinv hkeeps

theorem Init.control {mode : Option ProxyMode} {s : State} (h : Init mode s) :
    Control mode s s.phase := by
  have hlog : log s = [] := by rw [log, h.handled]; rfl
  rw [h.phase]
  exact ⟨by rw [hlog, h.sender]; rfl, by rw [hlog, h.config]; rfl⟩

/-! ## Section 3: Stops -/

/-- The step takes a `StopProxy` from the channel. -/
def TakesStop (s : State) (l : Label) : Prop :=
  (∃ env, l = .take_event env) ∧ ∃ source queue, s.queue = (source, .StopProxy) :: queue

/-- No stop is handled while no mode is configured. -/
def StopsConfigured (s : State) (l : Label) (_s' : State) : Prop :=
  TakesStop s l → s.handler.config.get_proxy_config ≠ none

/-- A stop is taken after a start, with no other stop in between; at first the
    mode of the configuration counts as a start. -/
def StopsAfterStart (mode : Option ProxyMode) (s : State) (l : Label) : Prop :=
  TakesStop s l → live mode.isSome (log s) = true

theorem stopsConfigured_iff {mode : Option ProxyMode} {s s' : State} {l : Label}
    (hinv : Control mode s s.phase) (h : next s l = some s') :
    StopsConfigured s l s' ↔ StopsAfterStart mode s l := by
  unfold StopsConfigured StopsAfterStart
  refine imp_congr_right fun htakes => ?_
  obtain ⟨⟨env, rfl⟩, -⟩ := htakes
  have hidle : Idle mode s := by
    simp only [next] at h
    split at h
    · rename_i hph hqueue
      rwa [hph] at hinv
    · cases h
  rw [← hidle.config, Option.isSome_iff_ne_none]

/-- **Stops.**  In a run of all the requests, lines and events, no stop is
    handled without a configured mode exactly if, in the order of the channel,
    every stop follows a start. -/
theorem stopsConfigured_iff_stopsAfterStart {mode : Option ProxyMode} {s : State}
    (h : (system mode).init s) (ls : List Label) :
    (system mode).AllSteps StopsConfigured s ls ↔
      (system mode).AllSteps (fun t l _ => StopsAfterStart mode t l) s ls :=
  (system mode).allSteps_iff (fun _ _ _ => stopsConfigured_iff)
    (fun _ _ _ hinv _ => control_step hinv) ls (Init.control h)

section samples

/-- A node without a mode. -/
def sampleState : State where
  handler := ⟨.empty, { OrcaNetConfig.sampleConfig with ProxyConfig := none }, none, 0⟩
  phase := .next_event
  task := Function.update (fun _ => none) .main (some ⟨.start_orca_node, .called⟩)
  queue := []
  handled := []

theorem init_sampleState : (system none).init sampleState := by
  refine ⟨rfl, rfl, rfl, rfl, fun source hne => ?_, rfl, rfl⟩
  show Function.update (fun _ => none) Source.main _ source = none
  rw [Function.update_of_ne hne]

/-- A request that is handled without a wait of its own. -/
def requestRun (n : ℕ) (call : Call) : List Label :=
  [.request n call, .check (.http n) HandlerEnv.working.toEnv, .send (.http n)]

/-- A client runs, and two requests to stop it overlap. -/
def sampleLabels : List Label :=
  requestRun 0 (.start_client "sess1") ++ [.take_event .working] ++
    requestRun 1 .stop ++ requestRun 2 .stop ++
    [.take_event .working, .handler .working .proxy_event_sent]

/-- Both stops passed the check of the configuration; the second one ends the
    handler. -/
theorem not_stopsConfigured_sampleLabels :
    (∃ t, (system none).run sampleState (sampleLabels ++ [.take_event .working]) = some t ∧
      t.phase = .panicked "Proxy mode to be present in config") ∧
    ¬ (system none).AllSteps StopsConfigured sampleState
      (sampleLabels ++ [.take_event .working]) := by
  refine ⟨⟨_, rfl, rfl⟩, fun hall => ?_⟩
  obtain ⟨t, t', hrun, hnext, hqueue, hconfig⟩ :
      ∃ t t', (system none).run sampleState sampleLabels = some t ∧
        (system none).next t (.take_event .working) = some t' ∧
        t.queue = [(.http 2, .StopProxy)] ∧ t.handler.config.get_proxy_config = none :=
    ⟨_, _, rfl, rfl, rfl, rfl⟩
  have hgood : StopsConfigured t (.take_event .working) t' := hall.last hrun hnext
  exact hgood ⟨⟨_, rfl⟩, _, _, hqueue⟩ hconfig

/-- One stop after the start of a client. -/
theorem stopsConfigured_requestRun :
    (∃ t, (system none).run sampleState (requestRun 0 (.start_client "sess1") ++
      [.take_event .working] ++ requestRun 1 .stop ++ [.take_event .working]) = some t) ∧
    (system none).AllSteps StopsConfigured sampleState (requestRun 0 (.start_client "sess1") ++
      [.take_event .working] ++ requestRun 1 .stop ++ [.take_event .working]) := by
  refine ⟨⟨_, rfl⟩, (stopsConfigured_iff_stopsAfterStart init_sampleState _).mpr ?_⟩
  have hother : ∀ {s l}, (∀ env, l ≠ .take_event env) → StopsAfterStart none s l :=
    fun hne htakes => htakes.1.elim fun env heq => absurd heq (hne env)
  iterate 3 refine (System.allSteps_cons _ rfl).mpr ⟨hother nofun, ?_⟩
  refine (System.allSteps_cons _ rfl).mpr ⟨?_, ?_⟩
  · -- the first event is the start
    rintro ⟨-, source, queue, hqueue⟩
    cases hqueue
  iterate 3 refine (System.allSteps_cons _ rfl).mpr ⟨hother nofun, ?_⟩
  exact (System.allSteps_cons _ rfl).mpr ⟨fun _ => rfl, trivial⟩

end samples

/-! ## Section 4: Starts -/

/-- The handler took the event of a source. -/
def Taken (s : State) (source : Source) (event : OrcaNetEvent) : Prop :=
  ∃ h ∈ s.handled, h.source = source ∧ h.event = event

/-- A call that reported success sent its event, and a start was taken. -/
def Reports (s : State) (source : Source) (call : Call) (data : Json.Value) : Prop :=
  ∃ event rest, Sends call event rest ∧ rest.answer = some (.success data) ∧
    ∀ mode, event = .StartProxy mode → Taken s source event

/-- Each request that took a start from the channel found no proxy running. -/
def Fresh : List Handled → Prop
  | [] => True
  | h :: older =>
    (∀ n mode, h.source = .http n → h.event = .StartProxy mode →
      (∃ server, h.spawn = [(server, mode)]) ∧ live false (older.map Handled.event) = false) ∧
    Fresh older

structure Tasks (s : State) : Prop where
  sends : ∀ source call event rest, s.task source = some ⟨call, .send event rest⟩ ∨
    s.task source = some ⟨call, .sent event rest⟩ → Sends call event rest
  taken : ∀ source call event rest, s.task source = some ⟨call, .sent event rest⟩ →
    (source, event) ∈ s.queue ∨ Taken s source event
  finished : ∀ n call data, s.task (.http n) = some ⟨call, .finished (some (.success data))⟩ →
    Reports s (.http n) call data
  fresh : Fresh s.handled

/-- The starts of requests are taken while no proxy runs, and none is left in a
    channel that closed. -/
structure StartsFresh (s : State) (l : Label) : Prop where
  taken : ∀ env n mode queue, l = .take_event env →
    s.queue = (.http n, .StartProxy mode) :: queue → live false (log s) = false
  sent : ∀ n call mode rest, l = .send (.http n) →
    s.task (.http n) = some ⟨call, .send (.StartProxy mode) rest⟩ → ended s.phase = false
  answered : ∀ n call mode rest, l = .sent (.http n) →
    s.task (.http n) = some ⟨call, .sent (.StartProxy mode) rest⟩ →
      .http n ∉ s.queue.map Prod.fst

/-- The tasks after one of them moved on. -/
theorem task_of_update {tasks : Source → Option Task} {source src : Source} {call c : Call}
    {stage stage' : Stage}
    (h : Function.update tasks source (some ⟨call, stage⟩) src = some ⟨c, stage'⟩) :
    (src = source ∧ c = call ∧ stage = stage') ∨ (src ≠ source ∧ tasks src = some ⟨c, stage'⟩) := by
  by_cases hsrc : src = source
  · subst hsrc
    rw [Function.update_self, Option.some.injEq, Task.mk.injEq] at h
    exact Or.inl ⟨rfl, h.1.symm, h.2⟩
  · rw [Function.update_of_ne hsrc] at h
    exact Or.inr ⟨hsrc, h⟩

/-- One task moves on. -/
theorem Tasks.set {s s' : State} {source : Source} {call : Call} {stage : Stage} (h : Tasks s)
    (htask : s'.task = Function.update s.task source (some ⟨call, stage⟩))
    (hqueue : ∀ p ∈ s.queue, p ∈ s'.queue) (hhandled : s'.handled = s.handled)
    (hsends : ∀ event rest, stage = .send event rest ∨ stage = .sent event rest →
      Sends call event rest)
    (hsent : ∀ event rest, stage = .sent event rest → (source, event) ∈ s'.queue)
    (hfinished : ∀ n data, source = .http n → stage = .finished (some (.success data)) →
      Reports s source call data) : Tasks s' := by
  -- what was handled stays handled, so reports of other tasks stay true
  have htaken : ∀ src event, Taken s src event → Taken s' src event := by
    intro src event htaken
    unfold Taken
    rwa [hhandled]
  have hreports : ∀ src c data, Reports s src c data → Reports s' src c data := by
    intro src c data hold
    obtain ⟨event, rest, hsends, hanswer, hstart⟩ := hold
    exact ⟨event, rest, hsends, hanswer, fun mode heq => htaken _ _ (hstart mode heq)⟩
  refine ⟨?_, ?_, ?_, hhandled ▸ h.fresh⟩
  · intro src c event rest hstage
    rw [htask] at hstage
    rcases hstage with hstage | hstage
    · obtain ⟨rfl, rfl, heq⟩ | ⟨-, hold⟩ := task_of_update hstage
      · exact hsends event rest (Or.inl heq)
      · exact h.sends src c event rest (Or.inl hold)
    · obtain ⟨rfl, rfl, heq⟩ | ⟨-, hold⟩ := task_of_update hstage
      · exact hsends event rest (Or.inr heq)
      · exact h.sends src c event rest (Or.inr hold)
  · intro src c event rest hstage
    rw [htask] at hstage
    obtain ⟨rfl, -, heq⟩ | ⟨-, hold⟩ := task_of_update hstage
    · exact Or.inl (hsent event rest heq)
    · exact (h.taken src c event rest hold).imp (hqueue _) (htaken _ _)
  · intro n c data hstage
    rw [htask] at hstage
    obtain ⟨rfl, rfl, heq⟩ | ⟨-, hold⟩ := task_of_update hstage
    · exact hreports _ _ _ (hfinished n data rfl heq)
    · exact hreports _ _ _ (h.finished n c data hold)

/-- A call that has sent nothing yet. -/
theorem Tasks.begin {s s' : State} {source : Source} {call : Call} {stage : Stage} (h : Tasks s)
    (hbegun : Begun call stage)
    (htask : s'.task = Function.update s.task source (some ⟨call, stage⟩))
    (hqueue : s'.queue = s.queue) (hhandled : s'.handled = s.handled) : Tasks s' := by
  refine h.set htask (fun p hp => hqueue ▸ hp) hhandled ?_ ?_ ?_
  · intro event rest hstage
    cases hbegun with
    | send hsends =>
      rcases hstage with heq | heq
      · cases heq
        exact hsends
      · cases heq
    | _ => rcases hstage with heq | heq <;> cases heq
  · intro event rest heq
    subst heq
    cases hbegun
  · intro n data _ heq
    subst heq
    cases hbegun

theorem tasks_send {s s' : State} {source : Source} (hinv : Tasks s)
    (hguard : StartsFresh s (.send source)) (h : next s (.send source) = some s') : Tasks s' := by
  simp only [next] at h
  split at h
  · rename_i call event rest htask
    have hsends := hinv.sends source call event rest (Or.inl htask)
    split at h
    · -- the channel is closed
      rename_i hended
      obtain rfl := Option.some.inj h
      refine hinv.set rfl (fun _ hp => hp) rfl ?_ ?_ ?_
      · intro event' rest' hstage
        unfold Rest.fail at hstage
        split at hstage <;> rcases hstage with heq | heq <;> cases heq
      · intro event' rest' hstage
        unfold Rest.fail at hstage
        split at hstage <;> cases hstage
      · rintro n data rfl hstage
        refine ⟨event, rest, hsends, ?_, ?_⟩
        · unfold Rest.fail at hstage
          split at hstage
          · cases hstage
          · exact Stage.finished.inj hstage
        · rintro mode rfl
          -- a start that reports success on a closed channel is what the guard excludes
          rw [hguard.sent n call mode rest rfl htask] at hended
          cases hended
    · obtain rfl := Option.some.inj h
      refine hinv.set rfl (fun _ hp => List.mem_append_left _ hp) rfl ?_ ?_ ?_
      · intro event' rest' hstage
        rcases hstage with heq | heq <;> cases heq
        exact hsends
      · intro event' rest' hstage
        cases hstage
        exact List.mem_append_right _ List.mem_cons_self
      · intro n data _ hstage
        cases hstage
  · cases h

theorem tasks_sent {s s' : State} {source : Source} (hinv : Tasks s)
    (hguard : StartsFresh s (.sent source)) (h : next s (.sent source) = some s') : Tasks s' := by
  simp only [next] at h
  split at h
  · rename_i call event rest htask
    split at h
    · cases h
    · obtain rfl := Option.some.inj h
      refine hinv.set rfl (fun _ hp => hp) rfl ?_ ?_ ?_
      · intro event' rest' hstage
        rcases hstage with heq | heq <;> cases heq
      · intro event' rest' hstage
        cases hstage
      · rintro n data rfl hstage
        refine ⟨event, rest, hinv.sends _ call event rest (Or.inr htask),
          Stage.finished.inj hstage, ?_⟩
        rintro mode rfl
        -- the event is not in the channel any more
        rcases hinv.taken _ call _ rest htask with hqueue | htaken
        · exact absurd (List.mem_map_of_mem hqueue) (hguard.answered n call mode rest rfl htask)
        · exact htaken
  · cases h

/-- A start that is taken while no proxy server runs starts one. -/
theorem spawn_of_start (env : HandlerEnv) {s : HandlerLoop} (mode : ProxyMode)
    (h : s.proxy_event_sender = none) :
    (HandlerLoop.handle_event env s (.StartProxy mode)).spawn = [(s.spawned, mode)] := by
  simp only [HandlerLoop.handle_event, h]

theorem tasks_take_event {mode : Option ProxyMode} {s s' : State} {env : HandlerEnv}
    (hcontrol : Control mode s s.phase) (hinv : Tasks s)
    (hguard : StartsFresh s (.take_event env)) (h : next s (.take_event env) = some s') :
    Tasks s' := by
  simp only [next] at h
  split at h
  · rename_i source event queue hph hqueue
    obtain rfl := Option.some.inj h
    have hidle : Idle mode s := by rwa [hph] at hcontrol
    -- an event that was taken stays taken
    have hmore : ∀ src ev, Taken s src ev → ∃ h ∈ ⟨source, event,
        s.handler.config.get_proxy_config, (HandlerLoop.handle_event env s.handler event).spawn⟩ ::
          s.handled, h.source = src ∧ h.event = ev := by
      rintro src ev ⟨h, hh, hspec⟩
      exact ⟨h, List.mem_cons_of_mem _ hh, hspec⟩
    refine ⟨hinv.sends, ?_, ?_, ?_, hinv.fresh⟩
    · intro src call ev rest htask
      rcases hinv.taken src call ev rest htask with hold | htaken
      · rw [hqueue] at hold
        rcases List.mem_cons.mp hold with heq | hold
        · obtain ⟨rfl, rfl⟩ := Prod.mk.inj heq
          exact Or.inr ⟨_, List.mem_cons_self, rfl, rfl⟩
        · exact Or.inl hold
      · exact Or.inr (hmore src ev htaken)
    · intro n call data htask
      obtain ⟨ev, rest, hsends, hanswer, hstart⟩ := hinv.finished n call data htask
      exact ⟨ev, rest, hsends, hanswer, fun m heq => hmore _ _ (hstart m heq)⟩
    · rintro n new rfl rfl
      have hlive := hguard.taken env n new queue rfl hqueue
      -- no server runs by the guard, so the handler has no sender and spawns one
      have hnone : s.handler.proxy_event_sender = none := by
        have hsender := hidle.sender
        rw [hlive] at hsender
        simpa using hsender
      exact ⟨⟨_, spawn_of_start env new hnone⟩, hlive⟩
  · cases h

theorem tasks_step {mode : Option ProxyMode} {s s' : State} {l : Label}
    (hcontrol : Control mode s s.phase) (hinv : Tasks s) (hguard : StartsFresh s l)
    (h : next s l = some s') : Tasks s' := by
  cases l with
  | send source => exact tasks_send hinv hguard h
  | sent source => exact tasks_sent hinv hguard h
  | take_event env => exact tasks_take_event hcontrol hinv hguard h
  | check source env =>
    simp only [next] at h
    split at h
    · obtain rfl := Option.some.inj h
      exact hinv.begin (begin_call_begun _ _ _) rfl rfl rfl
    · cases h
  | response n env fault provide_resp =>
    simp only [next] at h
    split at h
    · obtain rfl := Option.some.inj h
      exact hinv.begin (connect_response_begun _ _ _ _ _) rfl rfl rfl
    · cases h
  | request n call =>
    simp only [next] at h
    -- a new task has sent nothing yet
    repeat' split at h
    all_goals first
      | cases h; done
      | obtain rfl := Option.some.inj h
        exact hinv.set rfl (fun _ hp => hp) rfl (by simp) (by simp) (by simp)
  | line call =>
    simp only [next] at h
    repeat' split at h
    all_goals first
      | cases h; done
      | obtain rfl := Option.some.inj h
        exact hinv.set rfl (fun _ hp => hp) rfl (by simp) (by simp) (by simp)
  | other_event event =>
    simp only [next] at h
    split at h
    · cases h
    · obtain rfl := Option.some.inj h
      -- the queue grows at its end, so every event is still in it
      refine ⟨hinv.sends, fun src call ev rest htask => ?_, hinv.finished, hinv.fresh⟩
      exact (hinv.taken src call ev rest htask).imp_left (List.mem_append_left _)
  | handler env wake =>
    cases wake with
    | event event => cases h
    | _ =>
      obtain ⟨o, -, rfl⟩ := Option.map_eq_some_iff.mp h
      exact ⟨hinv.sends, hinv.taken, hinv.finished, hinv.fresh⟩

theorem Init.tasks {mode : Option ProxyMode} {s : State} (h : Init mode s) : Tasks s := by
  have hstage : ∀ source task, s.task source = some task → task.stage = .called := by
    intro source task htask
    by_cases hmain : source = .main
    · subst hmain
      rw [h.main] at htask
      obtain rfl := Option.some.inj htask
      rfl
    · rw [h.others source hmain] at htask
      cases htask
  refine ⟨?_, ?_, ?_, h.handled ▸ trivial⟩
  · rintro source call event rest (htask | htask) <;> cases hstage _ _ htask
  · intro source call event rest htask
    cases hstage _ _ htask
  · intro n call data htask
    cases hstage _ _ htask

/-- A request reports that it started the proxy of a handled event. -/
def Reported (s : State) (h : Handled) : Prop :=
  ∃ n call data mode, h.source = .http n ∧ h.event = .StartProxy mode ∧
    s.task (.http n) = some ⟨call, .finished (some (.success data))⟩

/-- The reports of requests are true. -/
structure Truthful (s : State) : Prop where
  connected : ∀ n peer_id session_id,
    s.task (.http n) = some ⟨.connect peer_id, .finished (some (connected session_id))⟩ →
      ∃ h ∈ s.handled, h.source = .http n ∧ h.event = .StartProxy (.ProxyClient session_id) ∧
        ∃ server, h.spawn = [(server, .ProxyClient session_id)]
  started : ∀ n call data, s.task (.http n) = some ⟨call, .finished (some (.success data))⟩ →
    call = .stop ∨ ∃ h ∈ s.handled, h.source = .http n ∧
      ∃ mode server, h.event = .StartProxy mode ∧ h.spawn = [(server, mode)]
  apart : ∀ newer h between h' older, s.handled = newer ++ h :: between ++ h' :: older →
    Reported s h → Reported s h' → ∃ stop ∈ between, stop.event = .StopProxy

theorem Fresh.of_append {newer older : List Handled} (h : Fresh (newer ++ older)) :
    Fresh older := by
  induction newer with
  | nil => exact h
  | cons x newer ih => exact ih h.2

theorem Fresh.of_mem {handled : List Handled} (hfresh : Fresh handled) {h : Handled}
    (hmem : h ∈ handled) {n : ℕ} {mode : ProxyMode} (hsource : h.source = .http n)
    (hevent : h.event = .StartProxy mode) : ∃ server, h.spawn = [(server, mode)] := by
  obtain ⟨newer, older, rfl⟩ := List.append_of_mem hmem
  exact (hfresh.of_append.1 n mode hsource hevent).1

/-- Without a stop after it, a start is the last one. -/
theorem live_append_start {events older : List OrcaNetEvent} (mode : ProxyMode)
    (h : ∀ event ∈ events, event ≠ .StopProxy) :
    live false (events ++ .StartProxy mode :: older) = true := by
  induction events with
  | nil => rfl
  | cons event events ih =>
    cases hcontrol : is_control event with
    | false =>
      rw [List.cons_append, live_of_not_control hcontrol]
      exact ih fun e he => h e (List.mem_cons_of_mem _ he)
    | true =>
      cases event with
      | StartProxy new => rfl
      | StopProxy => exact absurd rfl (h _ List.mem_cons_self)
      | _ => cases hcontrol

theorem Tasks.truthful {s : State} (hinv : Tasks s) : Truthful s where
  connected n peer_id session_id htask := by
    obtain ⟨event, rest, hsends, hanswer, hstart⟩ := hinv.finished n _ _ htask
    cases hsends with
    | connect _ id =>
      have hid : id = session_id := by simpa [connected] using hanswer
      subst hid
      obtain ⟨h, hh, hsource, hevent⟩ := hstart _ rfl
      exact ⟨h, hh, hsource, hevent, hinv.fresh.of_mem hh hsource hevent⟩
    | line event hline => cases hline
  started n call data htask := by
    obtain ⟨event, rest, hsends, hanswer, hstart⟩ := hinv.finished n _ _ htask
    have hstarted : ∀ mode, event = .StartProxy mode → ∃ h ∈ s.handled, h.source = .http n ∧
        ∃ mode server, h.event = .StartProxy mode ∧ h.spawn = [(server, mode)] := by
      intro mode heq
      obtain ⟨h, hh, hsource, hevent⟩ := hstart mode heq
      obtain ⟨server, hspawn⟩ := hinv.fresh.of_mem hh hsource (hevent.trans heq)
      exact ⟨h, hh, hsource, mode, server, hevent.trans heq, hspawn⟩
    cases hsends with
    | stop => exact Or.inl rfl
    | line event hline => cases hanswer
    | start_orca_node mode => cases hanswer
    | connect peer_id session_id => exact Or.inr (hstarted _ rfl)
    | start_providing => exact Or.inr (hstarted _ rfl)
    | start_client session_id => exact Or.inr (hstarted _ rfl)
  apart newer h between h' older heq hnew hold := by
    obtain ⟨n, _, _, mode, hsource, hevent, -⟩ := hnew
    obtain ⟨_, _, _, mode', -, hevent', -⟩ := hold
    have hfresh := hinv.fresh
    rw [heq, List.append_assoc, List.cons_append] at hfresh
    have hlive := (hfresh.of_append.1 n mode hsource hevent).2
    -- without a stop between, the older server would still have been running
    by_contra hno
    simp only [not_exists, not_and] at hno
    rw [List.map_append, List.map_cons, hevent', live_append_start mode'] at hlive
    · cases hlive
    · intro event hmem
      obtain ⟨x, hx, rfl⟩ := List.mem_map.mp hmem
      exact hno x hx

/-- **Starts.**  In a run in which the starts of requests reach the handler
    while no proxy runs, every reported start is one, and there is at most one
    of them between two stops. -/
theorem truthful_of_startsFresh {mode : Option ProxyMode} {s t : State}
    (h : (system mode).init s) {ls : List Label} (hrun : (system mode).run s ls = some t)
    (hfresh : (system mode).AllSteps (fun u l _ => StartsFresh u l) s ls) : Truthful t := by
  have hinv : Control mode t t.phase ∧ Tasks t :=
    System.AllSteps.invariant (J := fun u => Control mode u u.phase ∧ Tasks u)
      (fun _ _ _ hu hguard hnext =>
        ⟨control_step hu.1 hnext, tasks_step hu.1 hu.2 hguard hnext⟩)
      hfresh ⟨Init.control h, Init.tasks h⟩ hrun
  exact hinv.2.truthful

section samples

def sampleResponse : OrcaNetResponse F64 :=
  .HTTPProxyProvideResponse ⟨"127.0.0.1:3000", 1, "address"⟩ "client" "token"

/-- A request to connect, from the provider's response on. -/
def connectRun (n : ℕ) : List Label :=
  [.response n HandlerEnv.working.toEnv none (.ok sampleResponse), .send (.http n),
    .take_event .working, .sent (.http n)]

/-- A request to connect, up to its request to the provider. -/
def checkRun (n : ℕ) : List Label :=
  [.request n (.connect "provider"), .check (.http n) HandlerEnv.working.toEnv]

/-- Another client starts while `connect` waits for the provider; the session
    that is reported was never started. -/
theorem not_truthful_connectRun :
    ∃ t, (system none).run sampleState (checkRun 0 ++ requestRun 1 (.start_client "sess1") ++
      [.take_event .working] ++ connectRun 0) = some t ∧ ¬ Truthful t := by
  refine ⟨_, rfl, fun htrue => ?_⟩
  obtain ⟨h, hh, hsource, -, server, hspawn⟩ := htrue.connected 0 "provider" "uuid" rfl
  rcases List.mem_cons.mp hh with rfl | hh
  · -- the event of `connect` was ignored
    cases hspawn
  · rcases List.mem_cons.mp hh with rfl | hh
    · cases hsource
    · cases hh

/-- A step in which no request starts the proxy. -/
theorem startsFresh_of_ne {s : State} {l : Label} (htake : ∀ env, l ≠ .take_event env)
    (hsend : ∀ n, l ≠ .send (.http n)) (hsent : ∀ n, l ≠ .sent (.http n)) : StartsFresh s l where
  taken env _ _ _ heq := absurd heq (htake env)
  sent n _ _ _ heq := absurd heq (hsend n)
  answered n _ _ _ heq := absurd heq (hsent n)

/-- A connection on its own. -/
theorem truthful_connectRun :
    ∃ t, (system none).run sampleState (checkRun 0 ++ connectRun 0) = some t ∧ Truthful t := by
  obtain ⟨t, hrun⟩ : ∃ t, (system none).run sampleState (checkRun 0 ++ connectRun 0) = some t :=
    ⟨_, rfl⟩
  refine ⟨t, hrun, truthful_of_startsFresh init_sampleState hrun ?_⟩
  refine (System.allSteps_cons _ rfl).mpr ⟨startsFresh_of_ne nofun nofun nofun, ?_⟩
  refine (System.allSteps_cons _ rfl).mpr ⟨startsFresh_of_ne nofun nofun nofun, ?_⟩
  refine (System.allSteps_cons _ rfl).mpr ⟨startsFresh_of_ne nofun nofun nofun, ?_⟩
  refine (System.allSteps_cons _ rfl).mpr ⟨⟨nofun, fun _ _ _ _ _ _ => rfl, nofun⟩, ?_⟩
  refine (System.allSteps_cons _ rfl).mpr ⟨⟨fun _ _ _ _ _ _ => rfl, nofun, nofun⟩, ?_⟩
  refine (System.allSteps_cons _ rfl).mpr ⟨⟨nofun, nofun, fun _ _ _ _ _ _ => ?_⟩, trivial⟩
  exact List.not_mem_nil

end samples

end StartStop

end OrcaNet
