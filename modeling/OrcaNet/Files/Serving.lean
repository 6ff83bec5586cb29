import OrcaNet.Files.Node

/-! # Serving files

    What peers get when they ask for a file.  A file that was stopped for good
    is refused.  One that was stopped but kept in the database still has its
    row, and the lookup does not look at the status: it is served as before. -/

namespace OrcaNet

open Transition

namespace Files

/-! ## Section 1: Answers -/

/-- The file that an event asks for. -/
def file_of (event : OrcaNetEvent) : Option String :=
  (HandlerLoop.request_of event).bind fun p => RequestHandlerLoop.requested_file p.1

/-- A step handles a request for a file. -/
structure Handles (s : State) (l : Label) (env : HandlerEnv) (event : OrcaNetEvent)
    (file_id : String) : Prop where
  label : l = .handler env .run
  phase : s.phase = .handle_event event
  file : file_of event = some file_id

/-- The answer of a step that handles a request. -/
abbrev State.answer (s : State) (env : HandlerEnv) (event : OrcaNetEvent) :
    Option (OrcaNetResponse F64) :=
  Files.answer s.handler.config env.toEnv s.handler.db event

/-- The lookup of a step finds the row of a file. -/
abbrev State.Finds (s : State) (env : HandlerEnv) (file_id : String) (r : ProvidedFileInfo) :
    Prop :=
  RequestHandlerLoop.Finds env.toEnv s.handler.db file_id r

/-- The response gives metadata or content away. -/
def Gives : OrcaNetResponse F64 → Prop
  | .FileMetadataResponse _ | .FileContentResponse _ _ => True
  | _ => False

/-- The response refuses a file. -/
def Refuses (resp : OrcaNetResponse F64) : Prop :=
  ∃ message, resp = .Error (.NotAProvider message)

theorem Handles.answer {s : State} {l : Label} {env : HandlerEnv} {event : OrcaNetEvent}
    {file_id : String} (h : Handles s l env event file_id) :
    ∃ request db', RequestHandlerLoop.FileAnswer s.handler.config env.toEnv s.handler.db file_id
      request (s.answer env event) db' := by
  obtain ⟨⟨request, from_peer, channel⟩, hrequest, hfile⟩ := Option.bind_eq_some_iff.mp h.file
  have hanswer := RequestHandlerLoop.handle_request_file s.handler.config env.toEnv from_peer
    s.handler.db hfile
  rw [State.answer, Files.answer, hrequest]
  exact ⟨request, _, hanswer⟩

/-- The answer to a request whose lookup finds a row is no refusal. -/
theorem Handles.answer_of_finds {s : State} {l : Label} {env : HandlerEnv}
    {event : OrcaNetEvent} {file_id : String} {r : ProvidedFileInfo}
    (h : Handles s l env event file_id) (hr : s.Finds env file_id r) :
    ∃ resp, s.answer env event = some resp ∧ ¬ Refuses resp := by
  obtain ⟨request, db', hanswer⟩ := h.answer
  generalize s.answer env event = answer at hanswer ⊢
  cases hanswer with
  | no_connection hconn => cases hr.connection.symm.trans hconn
  | not_a_provider hlookup => cases hr.lookup.symm.trans hlookup
  | metadata hfinds => exact ⟨_, rfl, by simp [Refuses]⟩
  | unreadable hfinds hread => exact ⟨_, rfl, by simp [Refuses]⟩
  | content hfinds hread => exact ⟨_, rfl, by simp [Refuses]⟩

/-- An answer that is no refusal was looked up. -/
theorem Handles.finds_of_answer {s : State} {l : Label} {env : HandlerEnv}
    {event : OrcaNetEvent} {file_id : String} {resp : OrcaNetResponse F64}
    (h : Handles s l env event file_id) (hresp : s.answer env event = some resp)
    (hrefuse : ¬ Refuses resp) : ∃ r, s.Finds env file_id r := by
  obtain ⟨request, db', hanswer⟩ := h.answer
  rw [hresp] at hanswer
  cases hanswer with
  | not_a_provider hlookup => exact absurd ⟨_, rfl⟩ hrefuse
  | metadata hfinds => exact ⟨_, hfinds⟩
  | unreadable hfinds hread => exact ⟨_, hfinds⟩
  | content hfinds hread => exact ⟨_, hfinds⟩

/-! ## Section 2: Stopped files -/

/-- The answers of a step respect the status of a file: one without an active
    row is refused. -/
def RejectsStopped (s : State) (l : Label) : Prop :=
  ∀ env event file_id resp, Handles s l env event file_id → s.answer env event = some resp →
    (Gives resp → s.handler.db.Active file_id) ∧
      (¬ s.handler.db.Active file_id → Refuses resp)

/-- Only active rows are found. -/
def FindsActive (s : State) (l : Label) : Prop :=
  ∀ env event file_id r, Handles s l env event file_id → s.Finds env file_id r → r.status = 1

theorem rejectsStopped_step (s : State) (l : Label) : RejectsStopped s l ↔ FindsActive s l := by
  constructor
  · intro h env event file_id r hhandles hr
    obtain ⟨resp, hresp, hrefuse⟩ := hhandles.answer_of_finds hr
    by_contra hstatus
    refine hrefuse ((h env event file_id resp hhandles hresp).2 ?_)
    rintro ⟨r', hr', hactive⟩
    rw [hr.row] at hr'
    exact hstatus (Option.some.inj hr' ▸ hactive)
  · intro h env event file_id resp hhandles hresp
    -- an answer that does not refuse is about a row that was found
    have hactive : ¬ Refuses resp → s.handler.db.Active file_id := by
      intro hrefuse
      obtain ⟨r, hr⟩ := hhandles.finds_of_answer hresp hrefuse
      exact ⟨r, hr.row, h env event file_id r hhandles hr⟩
    refine ⟨fun hgives => hactive ?_, fun hinactive => ?_⟩
    · rintro ⟨message, rfl⟩
      exact hgives
    · by_contra hrefuse
      exact hinactive (hactive hrefuse)

/-- **Stopped files.**  In a run files without an active row are refused if and
    only if no request ever finds a row whose status is not 1. -/
theorem rejectsStopped_iff (s : State) (labels : List Label) :
    system.AllSteps (fun t l _ => RejectsStopped t l) s labels ↔
      system.AllSteps (fun t l _ => FindsActive t l) s labels :=
  system.allSteps_iff (J := fun _ => True) (fun t l _ _ _ => rejectsStopped_step t l)
    (fun _ _ _ _ _ _ => trivial) labels trivial

section samples

def sampleEnv : HandlerEnv := .reading [97, 98, 99]

/-- The file that `sampleEnv` reads. -/
def sampleFile : String := Utils.sampleDigest [97, 98, 99]

/-- A node that provides nothing. -/
def sampleState : State where
  handler := ⟨.empty, .sampleConfig, none, 0⟩
  phase := .next_event
  resuming := []
  provided := ∅
  outstanding := fun _ => []
  served := fun _ => 0

/-- The handler provides a file. -/
def provideRun : List Label :=
  [.handler sampleEnv (.event (.ProvideFile sampleFile "abc")), .handler sampleEnv .run,
    .command_taken sampleEnv sampleSwarm, .handler sampleEnv (.reply true)]

/-- The handler stops a file. -/
def stopRun (permanent : Bool) : List Label :=
  [.handler sampleEnv (.event (.StopProvidingFile sampleFile permanent)), .handler sampleEnv .run,
    .command_taken sampleEnv sampleSwarm]

/-- The handler takes a request. -/
def requestRun (request : OrcaNetRequest F64) : List Label :=
  [.handler sampleEnv (.event (.StreamRequest request ⟨"peer"⟩))]

/-- The file is stopped, but not for good, and a peer asks for it. -/
def softStopRun : List Label :=
  provideRun ++ stopRun false ++ requestRun (.FileMetadataRequest sampleFile)

/-- A file that was stopped, but not for good, is served. -/
theorem not_rejectsStopped_softStopRun :
    ¬ system.AllSteps (fun t l _ => RejectsStopped t l) sampleState
      (softStopRun ++ [.handler sampleEnv .run]) := by
  intro h
  have hrun : ∃ t t', system.run sampleState softStopRun = some t ∧
      system.next t (.handler sampleEnv .run) = some t' ∧
      ¬ RejectsStopped t (.handler sampleEnv .run) := by
    refine ⟨_, _, rfl, rfl, fun h => ?_⟩
    have hactive := (rejectsStopped_step _ _).mp h sampleEnv _ sampleFile _ ⟨rfl, rfl, rfl⟩
      ⟨rfl, rfl⟩
    cases hactive
  obtain ⟨t, t', hrun, hnext, hbad⟩ := hrun
  exact hbad (h.last hrun hnext)

end samples

end Files

end OrcaNet
