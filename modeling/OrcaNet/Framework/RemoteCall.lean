import Mathlib.Data.List.Nodup
import OrcaNet.Framework.System

/-! # Remote calls that are served at most once

    A call has a fresh id, a caller and a peer.  It is sent, received by the
    peer and served there with a result; any of these steps may also never
    happen.  The stage of an id is the whole history of its call, so a call
    that was served was served for its own request, and only once. -/

namespace RemoteCall

open Transition

universe u v w x

structure Call (Node : Type v) (Req : Type w) where
  caller : Node
  peer : Node
  request : Req

/-- How far a call got. -/
inductive Stage (Node : Type v) (Req : Type w) (Res : Type x) where
  | idle
  | calling (c : Call Node Req)
  | sent (c : Call Node Req)
  | serving (c : Call Node Req)
  | served (c : Call Node Req) (result : Res)

variable {Id : Type u} {Node : Type v} {Req : Type w} {Res : Type x} [DecidableEq Id]

/-- The call of a stage. -/
def Stage.call : Stage Node Req Res → Option (Call Node Req)
  | .idle => none
  | .calling c => some c
  | .sent c => some c
  | .serving c => some c
  | .served c _ => some c

/-- The node that a call is at, while it is at one. -/
def Stage.holder : Stage Node Req Res → Option Node
  | .calling c => some c.caller
  | .serving c => some c.peer
  | _ => none

structure State (Id : Type u) (Node : Type v) (Req : Type w) (Res : Type x) where
  stage : Id → Stage Node Req Res
  /-- The calls that were served, newest first. -/
  served : List (Id × Call Node Req × Res)

inductive Label (Id : Type u) (Node : Type v) (Req : Type w) (Res : Type x) where
  | call (id : Id) (c : Call Node Req)
  | send (id : Id)
  | receive (id : Id)
  | serve (id : Id) (result : Res)

/-- Functional update on `stage`. -/
def State.set (s : State Id Node Req Res) (id : Id) (st : Stage Node Req Res) :
    State Id Node Req Res :=
  { s with stage := fun i => if i = id then st else s.stage i }

@[simp] theorem State.set_self (s : State Id Node Req Res) (id : Id) (st : Stage Node Req Res) :
    (s.set id st).stage id = st := by
  simp [State.set]

@[simp] theorem State.set_ne (s : State Id Node Req Res) {i id : Id} (st : Stage Node Req Res)
    (h : i ≠ id) : (s.set id st).stage i = s.stage i := by
  simp [State.set, h]

@[simp] theorem State.set_served (s : State Id Node Req Res) (id : Id) (st : Stage Node Req Res) :
    (s.set id st).served = s.served := rfl

def next (s : State Id Node Req Res) : Label Id Node Req Res → Option (State Id Node Req Res)
  | .call id c =>
    match s.stage id with
    | .idle => some (s.set id (.calling c))
    | _ => none
  | .send id =>
    match s.stage id with
    | .calling c => some (s.set id (.sent c))
    | _ => none
  | .receive id =>
    match s.stage id with
    | .sent c => some (s.set id (.serving c))
    | _ => none
  | .serve id result =>
    match s.stage id with
    | .serving c =>
      some { s.set id (.served c result) with served := (id, c, result) :: s.served }
    | _ => none

def init : State Id Node Req Res := ⟨fun _ => .idle, []⟩

def system : System (State Id Node Req Res) (Label Id Node Req Res) where
  init := fun s => s = init
  next := next

/-- The log holds exactly the calls that were served, each once. -/
structure Logged (s : State Id Node Req Res) : Prop where
  once : (s.served.map Prod.fst).Nodup
  served : ∀ id c result, (id, c, result) ∈ s.served ↔ s.stage id = .served c result

theorem filter_fst_eq {α : Type u} {β : Type v} [DecidableEq α] {entries : List (α × β)}
    {a : α} {b : β} (hnodup : (entries.map Prod.fst).Nodup) (hmem : (a, b) ∈ entries) :
    entries.filter (fun e => e.1 = a) = [(a, b)] := by
  induction entries with
  | nil => cases hmem
  | cons e rest ih =>
    obtain ⟨hnew, hrest⟩ := List.nodup_cons.mp hnodup
    rcases List.mem_cons.mp hmem with rfl | hmem
    · have hnone : rest.filter (fun e => e.1 = a) = [] := by
        refine List.filter_eq_nil_iff.mpr fun e he => ?_
        simp only [decide_eq_true_eq]
        rintro rfl
        exact hnew (List.mem_map.mpr ⟨e, he, rfl⟩)
      simp [hnone]
    · have hne : e.1 ≠ a := by
        rintro rfl
        exact hnew (List.mem_map.mpr ⟨_, hmem, rfl⟩)
      simp [hne, ih hrest hmem]

/-- A served call has one entry in the log. -/
theorem Logged.filter_eq {s : State Id Node Req Res} (h : Logged s) {id : Id}
    {c : Call Node Req} {result : Res} (hserved : s.stage id = .served c result) :
    s.served.filter (fun e => e.1 = id) = [(id, c, result)] :=
  filter_fst_eq h.once ((h.served id c result).mpr hserved)

/-- A step of a call that was not served, to a stage before that. -/
theorem logged_set {s : State Id Node Req Res} (h : Logged s) {id : Id} {st : Stage Node Req Res}
    (hold : ∀ c result, s.stage id ≠ .served c result) (hnew : ∀ c result, st ≠ .served c result) :
    Logged (s.set id st) := by
  refine ⟨h.once, fun i c result => ?_⟩
  rw [State.set_served, h.served]
  by_cases hi : i = id
  · subst hi
    exact iff_of_false (hold c result) (by simpa using hnew c result)
  · rw [State.set_ne _ _ hi]

theorem logged_serve {s : State Id Node Req Res} (h : Logged s) {id : Id} {c : Call Node Req}
    (result : Res) (hserving : s.stage id = .serving c) :
    Logged { s.set id (.served c result) with served := (id, c, result) :: s.served } := by
  have hnew : id ∉ s.served.map Prod.fst := by
    intro hmem
    obtain ⟨⟨i, c', result'⟩, hin, rfl⟩ := List.mem_map.mp hmem
    have hserved := (h.served i c' result').mp hin
    rw [hserving] at hserved
    cases hserved
  refine ⟨List.nodup_cons.mpr ⟨hnew, h.once⟩, fun i c' result' => ?_⟩
  by_cases hi : i = id
  · subst hi
    have hold : (i, c', result') ∉ s.served :=
      fun hin => hnew (List.mem_map_of_mem (f := Prod.fst) hin)
    simp [State.set, hold, eq_comm]
  · simp [State.set, hi, h.served]

theorem logged_of_reachable {s : State Id Node Req Res} (h : system.Reachable s) : Logged s := by
  refine System.Reachable.invariant (J := Logged) ?_ ?_ h
  · rintro s rfl
    exact ⟨List.nodup_nil, by simp [init]⟩
  · intro s l s' _ hinv hnext
    simp only [system] at hnext
    cases l with
    | call id c =>
      cases hstage : s.stage id <;> simp only [next, hstage] at hnext <;> cases hnext
      exact logged_set hinv (by simp [hstage]) (by simp)
    | send id =>
      cases hstage : s.stage id <;> simp only [next, hstage] at hnext <;> cases hnext
      exact logged_set hinv (by simp [hstage]) (by simp)
    | receive id =>
      cases hstage : s.stage id <;> simp only [next, hstage] at hnext <;> cases hnext
      exact logged_set hinv (by simp [hstage]) (by simp)
    | serve id result =>
      -- the only step that adds to the log
      cases hstage : s.stage id <;> simp only [next, hstage] at hnext <;> cases hnext
      exact logged_serve hinv result hstage

end RemoteCall
