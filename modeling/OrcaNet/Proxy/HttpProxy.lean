import OrcaNet.Framework.System
import OrcaNet.HandlerLoop
import OrcaNet.Proxy.ProxyPayment

/-! # Proxy servers

    The tasks of `start_http_proxy` (`proxy/http_proxy.rs`) that the request
    handler spawns, one for each start that it does not ignore.  A task makes
    its handler, binds the proxy port and serves until it is told to stop; it
    holds the port until it returns.

    Telling a task to stop ends when the task takes the message.  What the task
    does after that is its own affair, and a client's `clean_up` waits for a
    cancellation that nothing in the program ever issues.

    `Succession` is the invariant: only the task that was spawned last may not
    have been told to stop. -/

namespace OrcaNet

open Transition

namespace HttpProxy

/-! ## Section 1: `start_http_proxy` -/

/-- What `get_handler` returns, apart from the handler. -/
inductive Handler where
  | ok
  | error (message : String)
  | panicked (message : String)

/-- `get_handler`; whether a proxy address is a valid URI is a parameter. -/
def get_handler (env : Env) (parse_uri : String → Bool) (db : Database) : ProxyMode → Handler
  | .ProxyProvider => .ok
  | .ProxyClient session_id =>
    match env.db_fault (.create_sqlite_connection .proxy_sessions) with
    | some _ => .panicked "Can't proceed without DB connection"
    | none =>
      match ProxySessionsTable.get_session_info env session_id db with
      | .error e => .error e
      | .ok session_info =>
        match ProxySessionStatus.try_from session_info.status with
        | none => .panicked "Status to be valid proxy status"
        | some proxy_status =>
          if proxy_status ≠ .Active then .error "Received attempt to start closed session"
          else if parse_uri s!"http://{session_info.proxy_address}" then .ok
          else .panicked "Proxy address to be valid proxy URI"

/-- How far a task has come. -/
inductive Stage where
  | get_handler
  | bind
  /-- In its `select!`. -/
  | serve
  /-- It took `StopProxy` and waits for `clean_up`. -/
  | clean_up
  | returned (result : Except String Unit)
  | panicked (message : String)

/-- The task is gone, and what it held is released. -/
def Stage.Ended : Stage → Prop
  | .returned _ | .panicked _ => True
  | _ => False

instance : DecidablePred Stage.Ended
  | .returned _ | .panicked _ => .isTrue trivial
  | .get_handler | .bind | .serve | .clean_up => .isFalse id

/-- The task holds the listener. -/
def Stage.Holds : Stage → Prop
  | .serve | .clean_up => True
  | _ => False

instance : DecidablePred Stage.Holds
  | .serve | .clean_up => .isTrue trivial
  | .get_handler | .bind | .returned _ | .panicked _ => .isFalse id

structure Task where
  mode : ProxyMode
  stage : Stage

/-- A provider listens on all addresses, a client only on the loopback one. -/
def addr : ProxyMode → String
  | .ProxyProvider => "0.0.0.0:3000"
  | .ProxyClient _ => "127.0.0.1:3000"

/-- `TcpListener::bind(addr).await.expect(..)` on an error. -/
def not_bound (mode : ProxyMode) : Stage :=
  .panicked s!"Tcp listener to be bound to {addr mode}"

/-! ## Section 2: System -/

structure State where
  handler : HandlerLoop
  phase : HandlerLoop.Phase
  tasks : ProxyServer → Option Task
  /-- `StopProxy` was sent to the task, which did not take it. -/
  stop_sent : ProxyServer → Bool
  /-- The cancellation tokens that were cancelled. -/
  cancelled : ProxyServer → Bool

inductive Label where
  /-- A segment of the request handler. -/
  | handler (env : HandlerEnv) (wake : HandlerLoop.Wake)
  | get_handler (server : ProxyServer) (env : Env) (parse_uri : String → Bool)
  /-- `TcpListener::bind`, and what it returns if no task holds the port. -/
  | bind (server : ProxyServer) (result : Except String Unit)
  /-- The task takes `StopProxy`. -/
  | stop (server : ProxyServer)
  | accept_error (server : ProxyServer)
  /-- `clean_up` is done. -/
  | cleaned_up (server : ProxyServer)

/-- No task holds the port. -/
def PortFree (s : State) : Prop :=
  ∀ server < s.handler.spawned, ∀ task ∈ s.tasks server, ¬ task.stage.Holds

instance (s : State) : Decidable (PortFree s) :=
  inferInstanceAs (Decidable (∀ server < s.handler.spawned, ∀ task ∈ s.tasks server,
    ¬ task.stage.Holds))

/-- A task moves on. -/
def State.set (s : State) (server : ProxyServer) (task : Task) (stage : Stage) : State :=
  { s with tasks := Function.update s.tasks server (some { task with stage := stage }) }

/-- A task is gone, and the receiver of its events with it. -/
def State.drop (s : State) (server : ProxyServer) (task : Task) (stage : Stage) : State :=
  { s.set server task stage with stop_sent := Function.update s.stop_sent server false }

/-- The handler's own step.  Sending `StopProxy` ends when the task took it. -/
def handler_step (s : State) (o : HandlerLoop.Outcome) : State where
  handler := o.loop
  phase := o.phase
  tasks := o.spawn.foldl
    (fun tasks p => Function.update tasks p.1 (some ⟨p.2, .get_handler⟩)) s.tasks
  stop_sent := match o.phase.server with
    | some server =>
      if ∀ task ∈ s.tasks server, task.stage.Ended then s.stop_sent
      else Function.update s.stop_sent server true
    | none => s.stop_sent
  cancelled := s.cancelled

def next (s : State) : Label → Option State
  | .handler env wake =>
    if ∃ server, s.phase.server = some server ∧ s.stop_sent server = true then none
    else (HandlerLoop.resume env s.handler s.phase wake).map (handler_step s)
  | .get_handler server env parse_uri =>
    match s.tasks server with
    | some ⟨mode, .get_handler⟩ =>
      match get_handler env parse_uri s.handler.db mode with
      | .ok => some (s.set server ⟨mode, .get_handler⟩ .bind)
      | .error e => some (s.drop server ⟨mode, .get_handler⟩ (.returned (.error e)))
      | .panicked message => some (s.drop server ⟨mode, .get_handler⟩ (.panicked message))
    | _ => none
  | .bind server result =>
    match s.tasks server with
    | some ⟨mode, .bind⟩ =>
      match result with
      | .ok () =>
        if PortFree s then some (s.set server ⟨mode, .bind⟩ .serve)
        else some (s.drop server ⟨mode, .bind⟩ (not_bound mode))
      | .error _ => some (s.drop server ⟨mode, .bind⟩ (not_bound mode))
    | _ => none
  | .stop server =>
    match s.tasks server, s.stop_sent server with
    | some ⟨mode, .serve⟩, true =>
      some { s.set server ⟨mode, .serve⟩ .clean_up with
        stop_sent := Function.update s.stop_sent server false }
    | _, _ => none
  | .accept_error server =>
    match s.tasks server with
    | some ⟨mode, .serve⟩ =>
      some (s.drop server ⟨mode, .serve⟩ (.panicked "Stream event to be valid"))
    | _ => none
  | .cleaned_up server =>
    match s.tasks server with
    | some ⟨mode, .clean_up⟩ =>
      -- `ProxyClient::clean_up` waits for the cancellation; that of a provider does nothing
      if mode = .ProxyProvider ∨ s.cancelled server = true then
        some (s.drop server ⟨mode, .clean_up⟩ (.returned (.ok ())))
      else none
    | _ => none

/-- A node before its first proxy server. -/
structure Init (s : State) : Prop where
  sender : s.handler.proxy_event_sender = none
  spawned : s.handler.spawned = 0
  phase : s.phase = .next_event
  tasks : ∀ server, s.tasks server = none
  cancelled : ∀ server, s.cancelled server = false

def system : System State Label where
  init := Init
  next := next

/-! ## Section 3: Succession -/

/-- The task took `StopProxy` or is gone. -/
def Task.Stopped (task : Task) : Prop := task.stage = .clean_up ∨ task.stage.Ended

structure Succession (s : State) : Prop where
  fresh : ∀ server task, s.tasks server = some task → server < s.handler.spawned
  older : ∀ server task, s.tasks server = some task → server + 1 < s.handler.spawned →
    task.Stopped
  sender : ∀ server, s.handler.proxy_event_sender = some server →
    server + 1 = s.handler.spawned
  /-- When no server is known to the handler, all were stopped. -/
  newest : s.handler.proxy_event_sender = none → s.phase.server = none →
    ∀ server task, s.tasks server = some task → task.Stopped
  telling : ∀ server, s.phase.server = some server →
    server + 1 = s.handler.spawned ∧ s.handler.proxy_event_sender = none
  told : ∀ server, s.phase.server = some server → s.stop_sent server = false →
    ∀ task, s.tasks server = some task → task.Stopped

theorem Init.succession {s : State} (h : Init s) : Succession s where
  fresh := by simp [h.tasks]
  older := by simp [h.tasks]
  sender := by simp [h.sender]
  newest := by simp [h.tasks]
  telling := by simp [h.phase, HandlerLoop.Phase.server]
  told := by simp [h.tasks]

theorem succ_lt_of_ne {server last spawned : ℕ} (hlt : server < spawned)
    (hlast : last + 1 = spawned) (hne : server ≠ last) : server + 1 < spawned := by
  omega

/-- What a step of the handler finds when it knows no server. -/
theorem Succession.stopped {s : State} (h : Succession s)
    (hsender : s.handler.proxy_event_sender = none)
    (htold : ∀ server, s.phase.server = some server → s.stop_sent server = false) :
    ∀ server task, s.tasks server = some task → task.Stopped := by
  cases hserver : s.phase.server with
  | none => exact h.newest hsender hserver
  | some told =>
    intro server task htask
    have hlast := (h.telling told hserver).1
    have hfresh := h.fresh server task htask
    by_cases heq : server = told
    · subst heq
      exact h.told server hserver (htold server hserver) task htask
    · exact h.older server task htask (succ_lt_of_ne hfresh hlast heq)

/-- The handler spawns a server: all earlier ones were stopped. -/
theorem Succession.start {s : State} {o : HandlerLoop.Outcome} {mode : ProxyMode}
    (h : Succession s)
    (hall : ∀ server task, s.tasks server = some task → task.Stopped)
    (hsender : o.loop.proxy_event_sender = some s.handler.spawned)
    (hspawned : o.loop.spawned = s.handler.spawned + 1)
    (hspawn : o.spawn = [(s.handler.spawned, mode)]) (hserver : o.phase.server = none) :
    Succession (handler_step s o) := by
  have htasks : (handler_step s o).tasks =
      Function.update s.tasks s.handler.spawned (some ⟨mode, .get_handler⟩) := by
    simp [handler_step, hspawn]
  -- only the new task was not stopped
  have hcases : ∀ server task, (handler_step s o).tasks server = some task →
      server = s.handler.spawned ∨ (server < s.handler.spawned ∧ task.Stopped) := by
    intro server task htask
    rw [htasks] at htask
    by_cases heq : server = s.handler.spawned
    · exact Or.inl heq
    · rw [Function.update_of_ne heq] at htask
      exact Or.inr ⟨h.fresh server task htask, hall server task htask⟩
  refine ⟨fun server task htask => ?_, fun server task htask hlt => ?_, fun server hs => ?_,
    fun hnone => ?_, fun server hs => ?_, fun server hs => ?_⟩
  · show server < o.loop.spawned
    rw [hspawned]
    obtain rfl | ⟨hlt, -⟩ := hcases server task htask
    · exact Nat.lt_succ_self _
    · exact Nat.lt_succ_of_lt hlt
  · have hlt' : server + 1 < o.loop.spawned := hlt
    obtain rfl | ⟨-, hstopped⟩ := hcases server task htask
    · exact absurd (hspawned ▸ hlt') (lt_irrefl _)
    · exact hstopped
  · have hs' : o.loop.proxy_event_sender = some server := hs
    rw [hsender] at hs'
    obtain rfl := Option.some.inj hs'
    exact hspawned.symm
  · cases hsender.symm.trans hnone
  · cases hserver.symm.trans hs
  · cases hserver.symm.trans hs

/-- A step that spawns no server leaves the order of the tasks as it is. -/
theorem Succession.unspawned {s : State} {o : HandlerLoop.Outcome} (h : Succession s)
    (hspawned : o.loop.spawned = s.handler.spawned)
    (htasks : (handler_step s o).tasks = s.tasks) {server : ProxyServer} {task : Task}
    (htask : (handler_step s o).tasks server = some task) :
    server < (handler_step s o).handler.spawned ∧
      (server + 1 < (handler_step s o).handler.spawned → task.Stopped) := by
  have hspawned' : (handler_step s o).handler.spawned = s.handler.spawned := hspawned
  rw [htasks] at htask
  rw [hspawned']
  exact ⟨h.fresh server task htask, h.older server task htask⟩

/-- The handler starts to tell its server to stop. -/
theorem Succession.tell {s : State} {o : HandlerLoop.Outcome} {told : ProxyServer}
    (h : Succession s) (hsender : s.handler.proxy_event_sender = some told)
    (hsender' : o.loop.proxy_event_sender = none)
    (hspawned : o.loop.spawned = s.handler.spawned) (hspawn : o.spawn = [])
    (hserver : o.phase.server = some told) : Succession (handler_step s o) := by
  have htasks : (handler_step s o).tasks = s.tasks := by simp [handler_step, hspawn]
  have hlast : told + 1 = o.loop.spawned := hspawned ▸ h.sender told hsender
  have htold : ∀ server, (handler_step s o).phase.server = some server → server = told := by
    intro server hs
    have hs' : o.phase.server = some server := hs
    rw [hserver] at hs'
    exact (Option.some.inj hs').symm
  refine ⟨fun server task htask => (h.unspawned hspawned htasks htask).1,
    fun server task htask => (h.unspawned hspawned htasks htask).2, fun server hs => ?_,
    fun _ hnone => ?_, fun server hs => ?_, fun server hs hfalse task htask => ?_⟩
  · cases hsender'.symm.trans hs
  · cases hserver.symm.trans hnone
  · obtain rfl := htold server hs
    exact ⟨hlast, hsender'⟩
  · obtain rfl := htold server hs
    rw [htasks] at htask
    -- the message is on its way unless there is nobody to take it
    simp only [handler_step, hserver] at hfalse
    split at hfalse
    · rename_i hended
      exact Or.inr (hended task htask)
    · simp at hfalse

/-- The handler does something else. -/
theorem Succession.keep {s : State} {o : HandlerLoop.Outcome} (h : Succession s)
    (htold : ∀ server, s.phase.server = some server → s.stop_sent server = false)
    (hsender : o.loop.proxy_event_sender = s.handler.proxy_event_sender)
    (hspawned : o.loop.spawned = s.handler.spawned) (hspawn : o.spawn = [])
    (hserver : o.phase.server = none) : Succession (handler_step s o) := by
  have htasks : (handler_step s o).tasks = s.tasks := by simp [handler_step, hspawn]
  refine ⟨fun server task htask => (h.unspawned hspawned htasks htask).1,
    fun server task htask => (h.unspawned hspawned htasks htask).2, fun server hs => ?_,
    fun hnone _ server task htask => ?_, fun server hs => ?_, fun server hs => ?_⟩
  · exact hspawned.symm ▸ h.sender server (hsender ▸ hs)
  · rw [htasks] at htask
    exact h.stopped (hsender ▸ hnone) htold server task htask
  · cases hserver.symm.trans hs
  · cases hserver.symm.trans hs

theorem succession_handler {s : State} {o : HandlerLoop.Outcome} (h : Succession s)
    (hmove : HandlerLoop.ProxyMove s.handler o)
    (htold : ∀ server, s.phase.server = some server → s.stop_sent server = false) :
    Succession (handler_step s o) := by
  cases hmove with
  | start mode hsender hsender' hspawned hspawn hserver =>
    exact h.start (h.stopped hsender htold) hsender' hspawned hspawn hserver
  | stop told hsender hsender' hspawned hspawn hserver =>
    exact h.tell hsender hsender' hspawned hspawn hserver
  | keep hsender hspawned hspawn hserver =>
    exact h.keep htold hsender hspawned hspawn hserver

/-- The tasks after one of them moved on. -/
theorem set_tasks {s : State} {server m : ProxyServer} {task t : Task} {stage : Stage}
    (h : (s.set server task stage).tasks m = some t) :
    (m = server ∧ t = { task with stage := stage }) ∨ (m ≠ server ∧ s.tasks m = some t) := by
  by_cases heq : m = server
  · subst heq
    obtain rfl := Option.some.inj ((Function.update_self m _ s.tasks).symm.trans h)
    exact Or.inl ⟨rfl, rfl⟩
  · exact Or.inr ⟨heq, (Function.update_of_ne heq _ _).symm.trans h⟩

/-- A task that was not stopped moves on. -/
theorem Succession.set {s : State} (h : Succession s) {server : ProxyServer} {task : Task}
    (htask : s.tasks server = some task) (hrunning : ¬ task.Stopped) (stage : Stage) :
    Succession (s.set server task stage) := by
  refine ⟨fun m t hm => ?_, fun m t hm hlt => ?_, h.sender, fun hnone hserver m t hm => ?_,
    h.telling, fun m hs hfalse t hm => ?_⟩
  · obtain ⟨rfl, -⟩ | ⟨-, hold⟩ := set_tasks hm
    · exact h.fresh m task htask
    · exact h.fresh m t hold
  · obtain ⟨rfl, -⟩ | ⟨-, hold⟩ := set_tasks hm
    · exact absurd (h.older m task htask hlt) hrunning
    · exact h.older m t hold hlt
  · obtain ⟨rfl, -⟩ | ⟨-, hold⟩ := set_tasks hm
    · exact absurd (h.newest hnone hserver m task htask) hrunning
    · exact h.newest hnone hserver m t hold
  · obtain ⟨rfl, -⟩ | ⟨-, hold⟩ := set_tasks hm
    · exact absurd (h.told m hs hfalse task htask) hrunning
    · exact h.told m hs hfalse t hold

/-- A task takes `StopProxy` or ends. -/
theorem Succession.drop {s : State} (h : Succession s) {server : ProxyServer} {task : Task}
    (htask : s.tasks server = some task) {stage : Stage}
    (hstage : stage = .clean_up ∨ stage.Ended) : Succession (s.drop server task stage) := by
  refine ⟨fun m t hm => ?_, fun m t hm hlt => ?_, h.sender, fun hnone hserver m t hm => ?_,
    h.telling, fun m hs hfalse t hm => ?_⟩
  · obtain ⟨rfl, -⟩ | ⟨-, hold⟩ := set_tasks hm
    · exact h.fresh m task htask
    · exact h.fresh m t hold
  · obtain ⟨-, rfl⟩ | ⟨-, hold⟩ := set_tasks hm
    · exact hstage
    · exact h.older m t hold hlt
  · obtain ⟨-, rfl⟩ | ⟨-, hold⟩ := set_tasks hm
    · exact hstage
    · exact h.newest hnone hserver m t hold
  · obtain ⟨-, rfl⟩ | ⟨hne, hold⟩ := set_tasks hm
    · exact hstage
    · have hsent : Function.update s.stop_sent server false m = false := hfalse
      rw [Function.update_of_ne hne] at hsent
      exact h.told m hs hsent t hold

/-- What a step of a task does to the tasks. -/
inductive TaskMove (s : State) (l : Label) : State → Prop where
  /-- Up to `serve`. -/
  | set {server task stage} (htask : s.tasks server = some task) (hrunning : ¬ task.Stopped)
      (hstage : stage = .bind ∨ stage = .serve) : TaskMove s l (s.set server task stage)
  | stop {server task} (hl : l = .stop server) (htask : s.tasks server = some task) :
      TaskMove s l (s.drop server task .clean_up)
  | fail {server task stage} (htask : s.tasks server = some task)
      (hstage : stage.Ended ∧ stage ≠ .returned (.ok ())) : TaskMove s l (s.drop server task stage)
  /-- `clean_up` is done. -/
  | finish {server task} (htask : s.tasks server = some task) (hstage : task.stage = .clean_up)
      (hdone : task.mode = .ProxyProvider ∨ s.cancelled server = true) :
      TaskMove s l (s.drop server task (.returned (.ok ())))

theorem next_handler {s s' : State} {env : HandlerEnv} {wake : HandlerLoop.Wake}
    (h : next s (.handler env wake) = some s') :
    ∃ o, HandlerLoop.resume env s.handler s.phase wake = some o ∧ s' = handler_step s o ∧
      ∀ server, s.phase.server = some server → s.stop_sent server = false := by
  simp only [next] at h
  split at h
  · cases h
  · rename_i htold
    obtain ⟨o, ho, hs'⟩ := Option.map_eq_some_iff.mp h
    refine ⟨o, ho, hs'.symm, fun server hserver => ?_⟩
    by_contra hsent
    exact htold ⟨server, hserver, by simpa using hsent⟩

theorem next_task {s s' : State} {l : Label} (hl : ∀ env wake, l ≠ .handler env wake)
    (h : next s l = some s') : TaskMove s l s' := by
  cases l with
  | handler env wake => exact absurd rfl (hl env wake)
  | get_handler server env parse_uri =>
    simp only [next] at h
    split at h
    · rename_i mode htask
      -- the handler was made, or the task is gone with an error or a panic
      split at h <;> obtain rfl := Option.some.inj h
      · exact .set htask (by simp [Task.Stopped, Stage.Ended]) (Or.inl rfl)
      · exact .fail htask ⟨trivial, by simp⟩
      · exact .fail htask ⟨trivial, by simp⟩
    · cases h
  | bind server result =>
    simp only [next] at h
    split at h
    · rename_i mode htask
      -- the port is free and the address could be bound, or the task panics
      split at h
      · split at h <;> obtain rfl := Option.some.inj h
        · exact .set htask (by simp [Task.Stopped, Stage.Ended]) (Or.inr rfl)
        · exact .fail htask ⟨trivial, by simp [not_bound]⟩
      · obtain rfl := Option.some.inj h
        exact .fail htask ⟨trivial, by simp [not_bound]⟩
    · cases h
  | stop server =>
    simp only [next] at h
    split at h
    · rename_i mode htask hsent
      obtain rfl := Option.some.inj h
      exact .stop rfl htask
    · cases h
  | accept_error server =>
    simp only [next] at h
    split at h
    · rename_i mode htask
      obtain rfl := Option.some.inj h
      exact .fail htask ⟨trivial, by simp⟩
    · cases h
  | cleaned_up server =>
    simp only [next] at h
    split at h
    · rename_i mode htask
      split at h
      · rename_i hdone
        obtain rfl := Option.some.inj h
        exact .finish htask rfl hdone
      · cases h
    · cases h

theorem succession_step {s s' : State} {l : Label} (hinv : Succession s)
    (h : next s l = some s') : Succession s' := by
  by_cases hl : ∀ env wake, l ≠ .handler env wake
  · -- the task that moves was not stopped before, or is stopped now
    cases next_task hl h with
    | set htask hrunning hstage => exact hinv.set htask hrunning _
    | stop hl htask => exact hinv.drop htask (Or.inl rfl)
    | fail htask hstage => exact hinv.drop htask (Or.inr hstage.1)
    | finish htask hstage hdone => exact hinv.drop htask (Or.inr trivial)
  · push Not at hl
    obtain ⟨env, wake, rfl⟩ := hl
    obtain ⟨o, ho, rfl, htold⟩ := next_handler h
    exact succession_handler hinv (HandlerLoop.resume_proxyMove ho) htold

/-! ## Section 4: One server at a time -/

/-- Some run from here cancels the token of a server. -/
def CanCancel (s : State) (server : ProxyServer) : Prop :=
  ∃ labels s', system.run s labels = some s' ∧ s'.cancelled server = true

/-- The task serves a client session. -/
def Task.Client (task : Task) : Prop := task.mode ≠ .ProxyProvider

/-- What a step must not break. -/
structure OneServer (s : State) (l : Label) (s' : State) : Prop where
  /-- Whoever binds the port, all who were spawned earlier are gone. -/
  alone : ∀ server result, l = .bind server result → ∀ earlier < server, ∀ task,
    s.tasks earlier = some task → task.stage.Ended
  /-- A client does not wait for a cancellation that nobody issues. -/
  waits : ∀ server task, s'.tasks server = some task → task.Client → task.stage = .clean_up →
    CanCancel s' server
  cancelled : ∀ server task, s'.tasks server = some task → task.Client →
    task.stage = .returned (.ok ()) → s'.cancelled server = true

/-- No client takes `StopProxy`, and nobody binds the port while an earlier
    server that took it has not returned. -/
structure Orderly (s : State) (l : Label) : Prop where
  stop : ∀ server, l = .stop server → ∀ task, s.tasks server = some task → ¬ task.Client
  bind : ∀ server result, l = .bind server result → ∀ earlier < server, ∀ task,
    s.tasks earlier = some task → task.stage ≠ .clean_up

theorem next_cancelled {s s' : State} {l : Label} (h : next s l = some s') :
    s'.cancelled = s.cancelled := by
  by_cases hl : ∀ env wake, l ≠ .handler env wake
  · cases next_task hl h <;> rfl
  · push Not at hl
    obtain ⟨env, wake, rfl⟩ := hl
    obtain ⟨o, -, rfl, -⟩ := next_handler h
    rfl

/-- Nothing in the program cancels a token. -/
theorem not_canCancel {s : State} {server : ProxyServer} (h : s.cancelled server = false) :
    ¬ CanCancel s server := by
  intro ⟨labels, s', hrun, hcancelled⟩
  have hfalse : s'.cancelled server = false :=
    system.run_invariant (J := fun t => t.cancelled server = false)
      (fun t l t' ht hnext => (congrFun (next_cancelled hnext) server).trans ht) labels h hrun
  rw [hfalse] at hcancelled
  cases hcancelled

/-- A state in which no client has taken `StopProxy`. -/
structure Quiet (s : State) : Prop where
  succession : Succession s
  cancelled : ∀ server, s.cancelled server = false
  clean_up : ∀ server task, s.tasks server = some task → task.Client → task.stage ≠ .clean_up
  returned : ∀ server task, s.tasks server = some task → task.Client →
    task.stage ≠ .returned (.ok ())

theorem Init.quiet {s : State} (h : Init s) : Quiet s where
  succession := h.succession
  cancelled := h.cancelled
  clean_up := by simp [h.tasks]
  returned := by simp [h.tasks]

/-- The tasks after a step of the handler: the old ones, and perhaps a new one. -/
theorem handler_step_tasks {s : State} {o : HandlerLoop.Outcome}
    (hmove : HandlerLoop.ProxyMove s.handler o) {server : ProxyServer} {task : Task}
    (htask : (handler_step s o).tasks server = some task) :
    task.stage = .get_handler ∨ s.tasks server = some task := by
  cases hmove with
  | start mode hsender hsender' hspawned hspawn hserver =>
    simp only [handler_step, hspawn, List.foldl_cons, List.foldl_nil] at htask
    by_cases heq : server = s.handler.spawned
    · subst heq
      rw [Function.update_self] at htask
      obtain rfl := Option.some.inj htask
      exact Or.inl rfl
    · rw [Function.update_of_ne heq] at htask
      exact Or.inr htask
  | stop told hsender hsender' hspawned hspawn hserver =>
    simp only [handler_step, hspawn, List.foldl_nil] at htask
    exact Or.inr htask
  | keep hsender hspawned hspawn hserver =>
    simp only [handler_step, hspawn, List.foldl_nil] at htask
    exact Or.inr htask

/-- The stage in which a step leaves a client, if it is a new one. -/
theorem next_client {s s' : State} {l : Label} (hq : Quiet s) (h : next s l = some s')
    {m : ProxyServer} {t : Task} (ht : s'.tasks m = some t) (hclient : t.Client) :
    (t.stage ≠ .clean_up ∨ l = .stop m) ∧ t.stage ≠ .returned (.ok ()) := by
  have hold : s.tasks m = some t →
      (t.stage ≠ .clean_up ∨ l = .stop m) ∧ t.stage ≠ .returned (.ok ()) := fun hm =>
    ⟨Or.inl (hq.clean_up m t hm hclient), hq.returned m t hm hclient⟩
  by_cases hl : ∀ env wake, l ≠ .handler env wake
  · cases next_task hl h with
    | set htask hrunning hstage =>
      obtain ⟨rfl, rfl⟩ | ⟨-, hm⟩ := set_tasks ht
      · obtain rfl | rfl := hstage <;> exact ⟨Or.inl (by simp), by simp⟩
      · exact hold hm
    | stop hstop htask =>
      obtain ⟨rfl, rfl⟩ | ⟨-, hm⟩ := set_tasks ht
      · exact ⟨Or.inr hstop, by simp⟩
      · exact hold hm
    | fail htask hstage =>
      obtain ⟨rfl, rfl⟩ | ⟨-, hm⟩ := set_tasks ht
      · refine ⟨Or.inl fun hclean => ?_, hstage.2⟩
        have hended := hstage.1
        simp only at hclean
        simp [hclean, Stage.Ended] at hended
      · exact hold hm
    | finish htask hstage hdone =>
      obtain ⟨rfl, rfl⟩ | ⟨-, hm⟩ := set_tasks ht
      -- a client was not in `clean_up`
      · exact absurd hstage (hq.clean_up m _ htask hclient)
      · exact hold hm
  · push Not at hl
    obtain ⟨env, wake, rfl⟩ := hl
    obtain ⟨o, ho, rfl, -⟩ := next_handler h
    obtain hnew | hm := handler_step_tasks (HandlerLoop.resume_proxyMove ho) ht
    · rw [hnew]
      exact ⟨Or.inl (by simp), by simp⟩
    · exact hold hm

/-- The task that takes `StopProxy` cleans up next. -/
theorem next_stop {s s' : State} {server : ProxyServer} (h : next s (.stop server) = some s') :
    ∃ task, s.tasks server = some task ∧
      s'.tasks server = some { task with stage := .clean_up } := by
  simp only [next] at h
  split at h
  · rename_i mode htask hsent
    obtain rfl := Option.some.inj h
    exact ⟨_, htask, Function.update_self _ _ _⟩
  · cases h

/-- Who binds the port was not told to stop. -/
theorem next_bind {s s' : State} {server : ProxyServer} {result : Except String Unit}
    (h : next s (.bind server result) = some s') : ∃ task, s.tasks server = some task := by
  simp only [next] at h
  split at h
  · rename_i mode htask
    exact ⟨_, htask⟩
  · cases h

theorem quiet_step {s s' : State} {l : Label} (hq : Quiet s) (hl : Orderly s l)
    (h : next s l = some s') : Quiet s' where
  succession := succession_step hq.succession h
  cancelled server := (congrFun (next_cancelled h) server).trans (hq.cancelled server)
  clean_up server task htask hclient := by
    obtain hstage | rfl := (next_client hq h htask hclient).1
    · exact hstage
    · obtain ⟨told, htold, htask'⟩ := next_stop h
      obtain rfl := Option.some.inj (htask'.symm.trans htask)
      exact absurd hclient (hl.stop server rfl told htold)
  returned server task htask hclient := (next_client hq h htask hclient).2

theorem oneServer_step {s s' : State} {l : Label} (hq : Quiet s) (h : next s l = some s') :
    OneServer s l s' ↔ Orderly s l := by
  constructor
  · intro hone
    refine ⟨fun server hl task htask hclient => ?_,
      fun server result hl earlier hlt task htask hclean => ?_⟩
    · subst hl
      obtain ⟨told, htold, htask'⟩ := next_stop h
      obtain rfl := Option.some.inj (htold.symm.trans htask)
      have hfalse := (congrFun (next_cancelled h) server).trans (hq.cancelled server)
      exact not_canCancel hfalse (hone.waits server _ htask' hclient rfl)
    · have hended := hone.alone server result hl earlier hlt task htask
      rw [hclean] at hended
      exact hended
  · intro hl
    have hq' := quiet_step hq hl h
    refine ⟨?_, fun server task htask hclient hclean => ?_,
      fun server task htask hclient hreturned => ?_⟩
    · rintro server result rfl earlier hlt task htask
      obtain ⟨binder, hbinder⟩ := next_bind h
      have hfresh := hq.succession.fresh server binder hbinder
      have hstopped := hq.succession.older earlier task htask
        (lt_of_le_of_lt (Nat.succ_le_of_lt hlt) hfresh)
      exact hstopped.resolve_left (hl.bind server result rfl earlier hlt task htask)
    · exact absurd hclean (hq'.clean_up server task htask hclient)
    · exact absurd hreturned (hq'.returned server task htask hclient)

/-- **One server at a time.**  In a run the servers follow one another, and the
    clients clean up, if and only if no client takes `StopProxy` and no server
    binds the port before an earlier one that took it has returned. -/
theorem oneServer_iff {s : State} (h : Init s) (labels : List Label) :
    system.AllSteps OneServer s labels ↔ system.AllSteps (fun t l _ => Orderly t l) s labels :=
  system.allSteps_iff (J := Quiet) (fun _ _ _ => oneServer_step)
    (fun _ _ _ => quiet_step) labels h.quiet

section samples

/-- A node with one session. -/
def sampleState : State where
  handler := ⟨{ Database.empty with
    proxy_sessions := .single (ProxyPaymentLoop.sampleSession 0 0) }, .sampleConfig, none, 0⟩
  phase := .next_event
  tasks := fun _ => none
  stop_sent := fun _ => false
  cancelled := fun _ => false

/-- The handler starts a server, which is then about to bind the port. -/
def startRun (mode : ProxyMode) (server : ProxyServer) : List Label :=
  [.handler .working (.event (.StartProxy mode)), .handler .working .run,
    .get_handler server HandlerEnv.working.toEnv fun _ => true]

/-- The client is stopped, and a second client started. -/
def restartRun : List Label :=
  startRun (.ProxyClient "session") 0 ++
    [.bind 0 (.ok ()), .handler .working (.event .StopProxy), .handler .working .run, .stop 0,
      .handler .working .proxy_event_sent] ++
    startRun (.ProxyClient "session") 1

/-- A stopped client keeps the port, and the next server is spawned all the same. -/
theorem not_oneServer_restartRun :
    Init sampleState ∧ ¬ system.AllSteps OneServer sampleState
      (restartRun ++ [.bind 1 (.ok ())]) := by
  refine ⟨⟨rfl, rfl, rfl, fun _ => rfl, fun _ => rfl⟩, fun h => ?_⟩
  have hrun : ∃ t t', system.run sampleState restartRun = some t ∧
      system.next t (.bind 1 (.ok ())) = some t' ∧
      t.tasks 0 = some ⟨.ProxyClient "session", .clean_up⟩ := ⟨_, _, rfl, rfl, rfl⟩
  obtain ⟨t, t', hrun, hnext, htask⟩ := hrun
  exact (h.last hrun hnext).alone 1 _ rfl 0 Nat.one_pos _ htask

/-- A provider is stopped and returns before a client takes its place. -/
def switchRun : List Label :=
  startRun .ProxyProvider 0 ++
    [.handler .working .command_taken, .handler .working (.reply true), .bind 0 (.ok ()),
      .handler .working (.event .StopProxy), .handler .working .run, .stop 0, .cleaned_up 0,
      .handler .working .proxy_event_sent, .handler .working .command_taken] ++
    startRun (.ProxyClient "session") 1 ++ [.bind 1 (.ok ())]

/-- Only taking `StopProxy` and binding the port can be out of order. -/
theorem allOrderly_cons {s s' : State} {l : Label} {labels : List Label}
    (hl : (∀ server, l ≠ .stop server) ∧ ∀ server result, l ≠ .bind server result)
    (hnext : next s l = some s')
    (h : system.AllSteps (fun t k _ => Orderly t k) s' labels) :
    system.AllSteps (fun t k _ => Orderly t k) s (l :: labels) := by
  have horderly : Orderly s l :=
    ⟨fun server hstop => absurd hstop (hl.1 server),
      fun server result hbind => absurd hbind (hl.2 server result)⟩
  exact (system.allSteps_cons hnext).mpr ⟨horderly, h⟩

theorem oneServer_switchRun :
    (∃ t, system.run sampleState switchRun = some t ∧
      t.tasks 1 = some ⟨.ProxyClient "session", .serve⟩) ∧
    system.AllSteps OneServer sampleState switchRun := by
  refine ⟨⟨_, rfl, rfl⟩, (oneServer_iff ⟨rfl, rfl, rfl, fun _ => rfl, fun _ => rfl⟩ _).mpr ?_⟩
  iterate 5 refine allOrderly_cons (by simp) rfl ?_
  refine (system.allSteps_cons rfl).mpr ⟨⟨by simp, ?_⟩, ?_⟩
  · rintro server result hl earlier hlt task htask
    cases hl
    exact absurd hlt (Nat.not_lt_zero _)
  iterate 2 refine allOrderly_cons (by simp) rfl ?_
  refine (system.allSteps_cons rfl).mpr ⟨⟨?_, by simp⟩, ?_⟩
  · rintro server hl task htask
    cases hl
    cases htask
    simp [Task.Client]
  iterate 6 refine allOrderly_cons (by simp) rfl ?_
  refine (system.allSteps_cons rfl).mpr ⟨⟨by simp, ?_⟩, trivial⟩
  rintro server result hl earlier hlt task htask
  cases hl
  obtain rfl := Nat.lt_one_iff.mp hlt
  cases htask
  simp

end samples

end HttpProxy

end OrcaNet
