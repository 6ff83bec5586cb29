import Mathlib.Algebra.BigOperators.Group.Multiset.Basic
import Mathlib.Algebra.Order.BigOperators.Group.Multiset
import Mathlib.Tactic.Abel
import OrcaNet.Framework.System

/-! # Transfers between two ledgers

    A sender books an amount and sends a message for it in one step.  The
    message is delivered, and then the receiver books the same amount, or it
    is lost; messages overtake each other freely and are not duplicated.

    The two ledgers then differ by exactly what is in flight or lost, and the
    receiver never counts more than the sender. -/

namespace TransferLedger

open Transition

universe u

variable {G : Type u}

structure State (G : Type u) where
  /-- The amount the sender has booked. -/
  sent : G
  /-- The amount the receiver has booked. -/
  received : G
  flight : Multiset G
  lost : Multiset G

inductive Label (G : Type u) where
  | send (a : G)
  | deliver (a : G)
  | lose (a : G)

variable [AddCommGroup G] [LinearOrder G]

def next (s : State G) : Label G → Option (State G)
  | .send a =>
    if 0 ≤ a then some { s with sent := s.sent + a, flight := a ::ₘ s.flight } else none
  | .deliver a =>
    if a ∈ s.flight then some { s with received := s.received + a, flight := s.flight.erase a }
    else none
  | .lose a =>
    if a ∈ s.flight then some { s with flight := s.flight.erase a, lost := a ::ₘ s.lost }
    else none

/-- Both ledgers start with the same amount. -/
structure Init (s : State G) : Prop where
  balance : s.sent = s.received
  flight : s.flight = 0
  lost : s.lost = 0

def system : System (State G) (Label G) where
  init := Init
  next := next

theorem reachable_send {s : State G} (h : system.Reachable s) {a : G} (ha : 0 ≤ a) :
    system.Reachable { s with sent := s.sent + a, flight := a ::ₘ s.flight } :=
  .step (l := .send a) h (if_pos ha)

theorem reachable_deliver {s : State G} (h : system.Reachable s) {a : G} (ha : a ∈ s.flight) :
    system.Reachable { s with received := s.received + a, flight := s.flight.erase a } :=
  .step (l := .deliver a) h (if_pos ha)

theorem reachable_lose {s : State G} (h : system.Reachable s) {a : G} (ha : a ∈ s.flight) :
    system.Reachable { s with flight := s.flight.erase a, lost := a ::ₘ s.lost } :=
  .step (l := .lose a) h (if_pos ha)

structure Balanced (s : State G) : Prop where
  conserved : s.sent = s.received + s.flight.sum + s.lost.sum
  flight_nonneg : ∀ a ∈ s.flight, 0 ≤ a
  lost_nonneg : ∀ a ∈ s.lost, 0 ≤ a

theorem balanced_step {s s' : State G} {l : Label G} (hinv : Balanced s)
    (hnext : next s l = some s') : Balanced s' := by
  obtain ⟨hcons, hflight, hlost⟩ := hinv
  cases l with
  | send a =>
    -- a transfer leaves one ledger before it reaches the other
    obtain ⟨hnonneg, heq⟩ := Option.ite_none_right_eq_some.mp hnext
    obtain rfl := Option.some.inj heq
    refine ⟨?_, ?_, hlost⟩
    · simp only [hcons, Multiset.sum_cons]
      abel
    · exact fun b hb => (Multiset.mem_cons.mp hb).elim (fun h => h ▸ hnonneg) (hflight b)
  | deliver a =>
    obtain ⟨hmem, heq⟩ := Option.ite_none_right_eq_some.mp hnext
    obtain rfl := Option.some.inj heq
    refine ⟨?_, fun b hb => hflight b (Multiset.mem_of_mem_erase hb), hlost⟩
    simp only [hcons, ← Multiset.sum_erase hmem]
    abel
  | lose a =>
    obtain ⟨hmem, heq⟩ := Option.ite_none_right_eq_some.mp hnext
    obtain rfl := Option.some.inj heq
    refine ⟨?_, fun b hb => hflight b (Multiset.mem_of_mem_erase hb), ?_⟩
    · simp only [hcons, ← Multiset.sum_erase hmem, Multiset.sum_cons]
      abel
    · exact fun b hb => (Multiset.mem_cons.mp hb).elim (fun h => h ▸ hflight a hmem) (hlost b)

theorem balanced_of_reachable {s : State G} (h : system.Reachable s) : Balanced s := by
  refine System.Reachable.invariant (J := Balanced) ?_
    (fun _ _ _ _ hinv hnext => balanced_step hinv hnext) h
  rintro s ⟨hbalance, hflight, hlost⟩
  exact ⟨by simp [hbalance, hflight, hlost], by simp [hflight], by simp [hlost]⟩

/-- The receiver never counts more than the sender. -/
theorem received_le_sent [IsOrderedAddMonoid G] {s : State G} (h : system.Reachable s) :
    s.received ≤ s.sent := by
  obtain ⟨hcons, hflight, hlost⟩ := balanced_of_reachable h
  have hsum : 0 ≤ s.flight.sum + s.lost.sum :=
    add_nonneg (Multiset.sum_nonneg hflight) (Multiset.sum_nonneg hlost)
  rw [hcons, add_assoc]
  exact le_add_of_nonneg_right hsum

end TransferLedger
