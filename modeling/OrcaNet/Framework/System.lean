import Mathlib.Algebra.BigOperators.Group.List.Basic
import Mathlib.Logic.Relation

/-! # Transition systems with resolved nondeterminism

    A system is an initial predicate and a partial step function: every
    choice of the environment is part of the label, so `next s l` is the
    only state label `l` leads to, and `none` says that `l` is not enabled.

    * `Reachable` and `run` give the states of all finite runs.
    * `Reachable.invariant` is the induction over runs.
    * `run_map_sum` adds up what the steps of a run contribute to a total,
      `run_filterMap` collects what they contribute to a log.
    * `AllSteps` speaks about every step of one run; `allSteps_iff` turns a
      one-step equivalence into an equivalence about runs.
    * `Reachable.simulates` transfers reachability along a state mapping,
      `Reachable.simulates_rel` along a relation.
-/

namespace Transition

universe u v w x

/-- A transition system with deterministic labels. -/
structure System (State : Type u) (Label : Type v) where
  init : State → Prop
  next : State → Label → Option State

namespace System

variable {State : Type u} {Label : Type v} (sys : System State Label)

/-- The state after a list of labels, oldest first. -/
def run (s : State) : List Label → Option State
  | [] => some s
  | l :: ls => (sys.next s l).bind fun s' => run s' ls

/-- States of finite runs from an initial state. -/
inductive Reachable : State → Prop where
  | init {s : State} : sys.init s → Reachable s
  | step {s s' : State} {l : Label} : Reachable s → sys.next s l = some s' → Reachable s'

@[simp] theorem run_nil (s : State) : sys.run s [] = some s := rfl

@[simp] theorem run_cons (s : State) (l : Label) (ls : List Label) :
    sys.run s (l :: ls) = (sys.next s l).bind fun s' => sys.run s' ls := rfl

/-- A property that each step preserves holds at the end of a run. -/
theorem run_invariant {J : State → Prop}
    (hstep : ∀ s l s', J s → sys.next s l = some s' → J s') :
    ∀ {s s' : State} (ls : List Label), J s → sys.run s ls = some s' → J s' := by
  intro s s' ls hs hrun
  induction ls generalizing s with
  | nil => obtain rfl := Option.some.inj hrun; exact hs
  | cons l ls ih =>
    obtain ⟨t, hnext, hrest⟩ := Option.bind_eq_some_iff.mp hrun
    exact ih (hstep s l t hs hnext) hrest

theorem Reachable.run {sys : System State Label} {s s' : State} (ls : List Label)
    (h : sys.Reachable s) (hrun : sys.run s ls = some s') : sys.Reachable s' :=
  sys.run_invariant (fun _ _ _ hr hn => .step hr hn) ls h hrun

/-- Induction over runs: an inductive invariant holds in every reachable state. -/
theorem Reachable.invariant {sys : System State Label} {J : State → Prop}
    (hinit : ∀ s, sys.init s → J s)
    (hstep : ∀ s l s', sys.Reachable s → J s → sys.next s l = some s' → J s') :
    ∀ {s}, sys.Reachable s → J s := by
  intro s h
  induction h with
  | init h => exact hinit _ h
  | step hr hnext ih => exact hstep _ _ _ hr ih hnext

/-- If every step adds the amount of its label to a total, when there is one, a
    run adds the sum of the amounts. -/
theorem run_map_sum {M : Type w} [AddMonoid M] (total : State → Option M) (amount : Label → M)
    (hstep : ∀ s l s', sys.next s l = some s' → total s' = (total s).map (· + amount l)) :
    ∀ {s s' : State} (ls : List Label), sys.run s ls = some s' →
      total s' = (total s).map (· + (ls.map amount).sum) := by
  intro s s' ls hrun
  induction ls generalizing s with
  | nil =>
    obtain rfl := Option.some.inj hrun
    simp
  | cons l ls ih =>
    obtain ⟨t, hnext, hrest⟩ := Option.bind_eq_some_iff.mp hrun
    rw [ih hrest, hstep s l t hnext, Option.map_map]
    refine congrArg (fun f => (total s).map f) (funext fun x => ?_)
    show x + amount l + _ = x + _
    rw [List.map_cons, List.sum_cons, add_assoc]

/-- If every step appends the entry of its label to a log, when there is one, a
    run appends the entries of its labels, oldest first. -/
theorem run_filterMap {E : Type w} (log : State → List E) (entry : Label → Option E)
    (hstep : ∀ s l s', sys.next s l = some s' → log s' = log s ++ (entry l).toList) :
    ∀ {s s' : State} (ls : List Label), sys.run s ls = some s' →
      log s' = log s ++ ls.filterMap entry := by
  intro s s' ls hrun
  induction ls generalizing s with
  | nil =>
    obtain rfl := Option.some.inj hrun
    simp
  | cons l ls ih =>
    obtain ⟨t, hnext, hrest⟩ := Option.bind_eq_some_iff.mp hrun
    rw [ih hrest, hstep s l t hnext, List.append_assoc]
    cases hentry : entry l <;> simp [hentry]

/-! ### Properties of the steps of one run -/

/-- `Q` holds of every step that the labels take from `s`. -/
def AllSteps (Q : State → Label → State → Prop) : State → List Label → Prop
  | _, [] => True
  | s, l :: ls => ∀ s', sys.next s l = some s' → Q s l s' ∧ AllSteps Q s' ls

@[simp] theorem allSteps_nil (Q : State → Label → State → Prop) (s : State) :
    sys.AllSteps Q s [] := trivial

theorem allSteps_cons {Q : State → Label → State → Prop} {s s' : State} {l : Label}
    {ls : List Label} (hnext : sys.next s l = some s') :
    sys.AllSteps Q s (l :: ls) ↔ Q s l s' ∧ sys.AllSteps Q s' ls := by
  simp [AllSteps, hnext]

theorem allSteps_of_forall {Q : State → Label → State → Prop} {ls : List Label}
    (h : ∀ s, ∀ l ∈ ls, ∀ s', Q s l s') : ∀ s, sys.AllSteps Q s ls := by
  induction ls with
  | nil => exact fun _ => trivial
  | cons l ls ih =>
    intro s s' _
    exact ⟨h s l List.mem_cons_self s', ih (fun t k hk => h t k (List.mem_cons_of_mem l hk)) s'⟩

/-- The last step of a run. -/
theorem AllSteps.last {sys : System State Label} {Q : State → Label → State → Prop}
    {s t t' : State} {ls : List Label} {l : Label} (h : sys.AllSteps Q s (ls ++ [l]))
    (hrun : sys.run s ls = some t) (hnext : sys.next t l = some t') : Q t l t' := by
  induction ls generalizing s with
  | nil =>
    obtain rfl := Option.some.inj hrun
    exact (h t' hnext).1
  | cons k ks ih =>
    obtain ⟨u, hk, hrest⟩ := Option.bind_eq_some_iff.mp hrun
    exact ih (h u hk).2 hrest

/-- A run in two parts. -/
theorem run_append {s s' : State} {ls ks : List Label} (h : sys.run s (ls ++ ks) = some s') :
    ∃ t, sys.run s ls = some t ∧ sys.run t ks = some s' := by
  induction ls generalizing s with
  | nil => exact ⟨s, rfl, h⟩
  | cons l ls ih =>
    obtain ⟨t, hnext, hrest⟩ := Option.bind_eq_some_iff.mp h
    obtain ⟨u, hls, hks⟩ := ih hrest
    refine ⟨u, ?_, hks⟩
    rw [run_cons, hnext]
    exact hls

theorem AllSteps.append {sys : System State Label} {Q : State → Label → State → Prop}
    {s t : State} {ls ks : List Label} (h : sys.AllSteps Q s (ls ++ ks))
    (hrun : sys.run s ls = some t) : sys.AllSteps Q s ls ∧ sys.AllSteps Q t ks := by
  induction ls generalizing s with
  | nil =>
    obtain rfl := Option.some.inj hrun
    exact ⟨trivial, h⟩
  | cons l ls ih =>
    obtain ⟨u, hnext, hrest⟩ := Option.bind_eq_some_iff.mp hrun
    obtain ⟨hq, hall⟩ := h u hnext
    obtain ⟨hls, hks⟩ := ih hall hrest
    exact ⟨(sys.allSteps_cons hnext).mpr ⟨hq, hls⟩, hks⟩

/-- What the steps of a run preserve holds at its end. -/
theorem AllSteps.invariant {sys : System State Label} {Q : State → Label → State → Prop}
    {J : State → Prop} (hstep : ∀ s l s', J s → Q s l s' → sys.next s l = some s' → J s') :
    ∀ {s s' : State} {ls : List Label}, sys.AllSteps Q s ls → J s → sys.run s ls = some s' →
      J s' := by
  intro s s' ls h hs hrun
  induction ls generalizing s with
  | nil =>
    obtain rfl := Option.some.inj hrun
    exact hs
  | cons l ls ih =>
    obtain ⟨t, hnext, hrest⟩ := Option.bind_eq_some_iff.mp hrun
    obtain ⟨hq, hall⟩ := h t hnext
    exact ih hall (hstep s l t hs hq hnext) hrest

/-- If, from states with `J`, a step is good exactly when it meets the guard,
    and steps that meet the guard keep `J`, then a run is good at every step
    exactly when every step meets the guard. -/
theorem allSteps_iff {J : State → Prop} {G : State → Label → Prop}
    {Q : State → Label → State → Prop}
    (hgood : ∀ s l s', J s → sys.next s l = some s' → (Q s l s' ↔ G s l))
    (hstep : ∀ s l s', J s → G s l → sys.next s l = some s' → J s') :
    ∀ {s : State} (ls : List Label), J s →
      (sys.AllSteps Q s ls ↔ sys.AllSteps (fun t l _ => G t l) s ls) := by
  intro s ls hs
  induction ls generalizing s with
  | nil => simp
  | cons l ls ih =>
    cases hnext : sys.next s l with
    | none => simp [AllSteps, hnext]
    -- the invariant passes to the rest of the run only if this step meets the guard
    | some t =>
      rw [sys.allSteps_cons hnext, sys.allSteps_cons hnext, hgood s l t hs hnext]
      exact and_congr_right fun hg => ih (hstep s l t hs hg hnext)

/-- If, from states with `J`, a step that meets the guard keeps `J` and is good,
    then a run whose steps all meet the guard is good at every step. -/
theorem allSteps_of_guard {J : State → Prop} {G : State → Label → Prop}
    {Q : State → Label → State → Prop}
    (hstep : ∀ s l s', J s → G s l → sys.next s l = some s' → J s' ∧ Q s l s') :
    ∀ {s : State} (ls : List Label), J s →
      sys.AllSteps (fun t l _ => G t l) s ls → sys.AllSteps Q s ls := by
  intro s ls hs hguard
  induction ls generalizing s with
  | nil => trivial
  | cons l ls ih =>
    intro t hnext
    obtain ⟨hg, hrest⟩ := hguard t hnext
    obtain ⟨ht, hgood⟩ := hstep s l t hs hg hnext
    exact ⟨hgood, ih ht hrest⟩

/-- Without a guard. -/
theorem allSteps_of_invariant {J : State → Prop} {Q : State → Label → State → Prop}
    (hstep : ∀ s l s', J s → sys.next s l = some s' → J s' ∧ Q s l s') :
    ∀ {s : State} (ls : List Label), J s → sys.AllSteps Q s ls := by
  intro s ls hs
  refine sys.allSteps_of_guard (J := J) (G := fun _ _ => True) ?_ ls hs ?_
  · exact fun t l t' ht _ hnext => hstep t l t' ht hnext
  · exact sys.allSteps_of_forall (fun _ _ _ _ => trivial) s

/-! ### Simulation -/

/-- If initial states are related to reachable abstract states and every
    concrete step is matched by a (possibly empty) abstract run, every reachable
    state is related to a reachable abstract state. -/
theorem Reachable.simulates_rel {sys : System State Label} {AState : Type w} {ALabel : Type x}
    {abs : System AState ALabel} (R : State → AState → Prop)
    (hinit : ∀ s, sys.init s → ∃ t, abs.Reachable t ∧ R s t)
    (hstep : ∀ s l s' t, abs.Reachable t → R s t → sys.next s l = some s' →
      ∃ ks t', abs.run t ks = some t' ∧ R s' t') :
    ∀ {s}, sys.Reachable s → ∃ t, abs.Reachable t ∧ R s t := by
  intro s h
  induction h with
  | init h => exact hinit _ h
  | step _ hnext ih =>
    obtain ⟨t, ht, hrel⟩ := ih
    obtain ⟨ks, t', hrun, hrel'⟩ := hstep _ _ _ t ht hrel hnext
    exact ⟨t', Reachable.run ks ht hrun, hrel'⟩

/-- The same along a state mapping. -/
theorem Reachable.simulates {sys : System State Label} {AState : Type w} {ALabel : Type x}
    {abs : System AState ALabel} (f : State → AState)
    (hinit : ∀ s, sys.init s → abs.Reachable (f s))
    (hstep : ∀ s l s', sys.next s l = some s' → ∃ ks, abs.run (f s) ks = some (f s')) :
    ∀ {s}, sys.Reachable s → abs.Reachable (f s) := by
  intro s h
  obtain ⟨t, ht, rfl⟩ := h.simulates_rel (fun s t => f s = t)
    (fun s hs => ⟨f s, hinit s hs, rfl⟩) (by
      rintro s l s' t - rfl hnext
      obtain ⟨ks, hks⟩ := hstep s l s' hnext
      exact ⟨ks, f s', hks, rfl⟩)
  exact ht

end System

end Transition
