import Mathlib.Order.Interval.Finset.Nat
import OrcaNet.HttpServer.ProxyEndpoints

/-! # Wallet endpoints

    `list_transactions` of `http_server/endpoints/wallet_endpoints.rs`, which
    pages through the wallet's transactions.  A request names the window from
    `start_offset`, counted from 1, up to `end_offset`; the endpoint asks
    bitcoind for a count and a skip and sorts what it gets by time.

    Nothing checks the offsets.  In range, adjacent windows tile (`tiles`);
    out of range one of the two subtractions underflows (`computed_iff`). -/

namespace OrcaNet

/-- What the endpoint uses of an entry: its time, and the JSON that serde makes of it. -/
structure ListTransactionResult where
  time : ℕ
  json : Json.Value

namespace WalletEndpoints

/-! ## Section 1: The endpoint -/

/-- `a - b`: a build with overflow checks panics where the other one wraps. -/
def usize_sub (overflow_checks : Bool) (a b : USize) : Option USize :=
  if overflow_checks ∧ a < b then none else some (a - b)

/-- The calls of `listtransactions`, each with its count and skip, and the answer. -/
structure Outcome where
  calls : List (USize × USize)
  response : AppResponse

/-- Bitcoind, under a count and a skip; an error is the text it is shown with. -/
abbrev Rpc : Type := USize → USize → Except String (List ListTransactionResult)

/-- `sort_by` is stable; the latest transaction comes first. -/
def sort_by_time (transactions : List ListTransactionResult) : List ListTransactionResult :=
  transactions.mergeSort fun a b => decide (b.time ≤ a.time)

def answer (page : List ListTransactionResult) : AppResponse :=
  .success (.array (page.map ListTransactionResult.json))

/-- The answer to what bitcoind returned. -/
def respond : Except String (List ListTransactionResult) → AppResponse
  | .ok transactions => answer (sort_by_time transactions)
  | .error e => .error ("Error fetching transactions " ++ e)

/-- `none` stands for a panic. -/
def list_transactions (overflow_checks : Bool) (rpc : Rpc) (start_offset end_offset : USize) :
    Option Outcome := do
  let count ← usize_sub overflow_checks end_offset start_offset
  let skip ← usize_sub overflow_checks start_offset 1
  return ⟨[(count, skip)], respond (rpc count skip)⟩

variable {overflow_checks : Bool} {rpc : Rpc} {a b start_offset end_offset : USize}

theorem usize_sub_of_le (h : b ≤ a) : usize_sub overflow_checks a b = some (a - b) := by
  unfold usize_sub
  rw [if_neg]
  exact fun hlt => absurd h (USize.not_le.mpr hlt.2)

/-- The difference is right exactly when there is one. -/
theorem toNat_sub_add_iff : (a - b).toNat + b.toNat = a.toNat ↔ b ≤ a := by
  constructor
  · intro h
    rw [USize.le_iff_toNat_le]
    omega
  · intro h
    rw [USize.toNat_sub_of_le a b h]
    rw [USize.le_iff_toNat_le] at h
    omega

theorem usize_sub_eq_some {d : USize} (h : usize_sub overflow_checks a b = some d) : d = a - b := by
  unfold usize_sub at h
  split at h
  · cases h
  · exact (Option.some.inj h).symm

/-- Whatever the endpoint does, it makes one call, for the two differences. -/
theorem calls_of_list_transactions {o : Outcome}
    (h : list_transactions overflow_checks rpc start_offset end_offset = some o) :
    o.calls = [(end_offset - start_offset, start_offset - 1)] := by
  simp only [list_transactions, Option.bind_eq_bind, Option.bind_eq_some_iff] at h
  obtain ⟨count, hcount, skip, hskip, ho⟩ := h
  obtain rfl := usize_sub_eq_some hcount
  obtain rfl := usize_sub_eq_some hskip
  obtain rfl := Option.some.inj ho
  rfl

theorem list_transactions_of_range (hstart : 1 ≤ start_offset) (hend : start_offset ≤ end_offset) :
    list_transactions overflow_checks rpc start_offset end_offset =
      some ⟨[(end_offset - start_offset, start_offset - 1)],
        respond (rpc (end_offset - start_offset) (start_offset - 1))⟩ := by
  simp only [list_transactions, usize_sub_of_le hstart, usize_sub_of_le hend,
    Option.bind_eq_bind, Option.bind_some]
  rfl

theorem sort_by_time_perm (transactions : List ListTransactionResult) :
    (sort_by_time transactions).Perm transactions :=
  List.mergeSort_perm ..

theorem sort_by_time_sorted (transactions : List ListTransactionResult) :
    (sort_by_time transactions).Pairwise fun a b => b.time ≤ a.time := by
  have htrans (a b c : ListTransactionResult) :
      decide (b.time ≤ a.time) → decide (c.time ≤ b.time) → decide (c.time ≤ a.time) := by
    simp only [decide_eq_true_eq]
    omega
  have htotal (a b : ListTransactionResult) :
      decide (b.time ≤ a.time) || decide (a.time ≤ b.time) := by
    simp only [Bool.or_eq_true, decide_eq_true_eq]
    omega
  simpa [sort_by_time] using List.pairwise_mergeSort htrans htotal transactions

/-! ## Section 2: Offsets -/

/-- Count and skip are computed without underflow, or no call is made and the
    answer is an error. -/
def Computed (overflow_checks : Bool) (rpc : Rpc) (start_offset end_offset : USize) : Prop :=
  ∃ o, list_transactions overflow_checks rpc start_offset end_offset = some o ∧
    (∀ call ∈ o.calls, call.1.toNat + start_offset.toNat = end_offset.toNat ∧
      call.2.toNat + 1 = start_offset.toNat) ∧
    (o.calls = [] → ∃ e, o.response = .error e)

theorem computed_iff :
    Computed overflow_checks rpc start_offset end_offset ↔
      1 ≤ start_offset ∧ start_offset ≤ end_offset := by
  constructor
  · rintro ⟨o, ho, hcalls, -⟩
    rw [calls_of_list_transactions ho] at hcalls
    obtain ⟨hcount, hskip⟩ := hcalls _ (List.mem_singleton_self _)
    rw [← USize.toNat_one] at hskip
    exact ⟨toNat_sub_add_iff.mp hskip, toNat_sub_add_iff.mp hcount⟩
  · rintro ⟨hstart, hend⟩
    refine ⟨_, list_transactions_of_range hstart hend, fun call hcall => ?_, fun hempty => ?_⟩
    · obtain rfl := List.mem_singleton.mp hcall
      have hskip := toNat_sub_add_iff.mpr hstart
      rw [USize.toNat_one] at hskip
      exact ⟨toNat_sub_add_iff.mpr hend, hskip⟩
    · cases hempty

/-! ## Section 3: Windows -/

/-- The entries from a position on, counted from 0. -/
def window {α : Type} (skip count : ℕ) (entries : List α) : List α := (entries.drop skip).take count

theorem window_append {α : Type} (skip m n : ℕ) (entries : List α) :
    window skip (m + n) entries = window skip m entries ++ window (skip + m) n entries := by
  rw [window, List.take_add, List.drop_drop]
  rfl

/-- `listtransactions`, on a wallet with these entries, the most recent first: it
    returns `count` of them after `skip`, in whichever order. -/
def ListsRecent (rpc : Rpc) (recent : List ListTransactionResult) : Prop :=
  ∀ count skip, ∃ transactions, rpc count skip = .ok transactions ∧
    transactions.Perm (window skip.toNat count.toNat recent)

/-- The positions, from the most recent entry on, that a call asks for. -/
def positions (call : USize × USize) : Finset ℕ :=
  Finset.Ico call.2.toNat (call.2.toNat + call.1.toNat)

/-- The endpoint serves `[start_offset, end_offset)` by one call and one page. -/
structure Serves (overflow_checks : Bool) (rpc : Rpc) (recent : List ListTransactionResult)
    (start_offset end_offset : USize) (call : USize × USize) (page : List ListTransactionResult) :
    Prop where
  outcome : list_transactions overflow_checks rpc start_offset end_offset =
    some ⟨[call], answer page⟩
  positions_eq : positions call = Finset.Ico (start_offset.toNat - 1) (end_offset.toNat - 1)
  entries : page.Perm
    (window (start_offset.toNat - 1) (end_offset.toNat - start_offset.toNat) recent)
  sorted : page.Pairwise fun a b => b.time ≤ a.time

/-- Two adjacent windows ask for disjoint positions, together those of the whole
    window, and their pages hold the entries of the page of the whole. -/
def Tiles (overflow_checks : Bool) (rpc : Rpc) (recent : List ListTransactionResult)
    (s₁ s₂ s₃ : USize) : Prop :=
  ∃ call₁₂ call₂₃ call₁₃ page₁₂ page₂₃ page₁₃,
    Serves overflow_checks rpc recent s₁ s₂ call₁₂ page₁₂ ∧
    Serves overflow_checks rpc recent s₂ s₃ call₂₃ page₂₃ ∧
    Serves overflow_checks rpc recent s₁ s₃ call₁₃ page₁₃ ∧
    Disjoint (positions call₁₂) (positions call₂₃) ∧
    positions call₁₂ ∪ positions call₂₃ = positions call₁₃ ∧
    page₁₃.Perm (page₁₂ ++ page₂₃)

variable {recent : List ListTransactionResult}

theorem serves_of_range (hrpc : ListsRecent rpc recent) (hstart : 1 ≤ start_offset)
    (hend : start_offset ≤ end_offset) :
    ∃ call page, Serves overflow_checks rpc recent start_offset end_offset call page := by
  obtain ⟨transactions, hreturned, hwindow⟩ := hrpc (end_offset - start_offset) (start_offset - 1)
  have hskip := toNat_sub_add_iff.mpr hstart
  have hcount := toNat_sub_add_iff.mpr hend
  rw [USize.toNat_one] at hskip
  refine ⟨(end_offset - start_offset, start_offset - 1), sort_by_time transactions, ?_, ?_, ?_,
    sort_by_time_sorted transactions⟩
  · rw [list_transactions_of_range hstart hend, hreturned]
    rfl
  · have hlast : (start_offset - 1).toNat + (end_offset - start_offset).toNat =
        end_offset.toNat - 1 := by omega
    rw [positions, hlast, ← hskip, Nat.add_sub_cancel]
  · have hskip' : start_offset.toNat - 1 = (start_offset - 1).toNat := by omega
    have hcount' : end_offset.toNat - start_offset.toNat = (end_offset - start_offset).toNat := by
      omega
    rw [hskip', hcount']
    exact (sort_by_time_perm transactions).trans hwindow

theorem tiles (hrpc : ListsRecent rpc recent) {s₁ s₂ s₃ : USize} (h₁ : 1 ≤ s₁) (h₁₂ : s₁ ≤ s₂)
    (h₂₃ : s₂ ≤ s₃) : Tiles overflow_checks rpc recent s₁ s₂ s₃ := by
  have hs₁ := USize.le_iff_toNat_le.mp h₁
  have hs₁₂ := USize.le_iff_toNat_le.mp h₁₂
  have hs₂₃ := USize.le_iff_toNat_le.mp h₂₃
  rw [USize.toNat_one] at hs₁
  obtain ⟨call₁₂, page₁₂, hserves₁₂⟩ := serves_of_range hrpc h₁ h₁₂
  obtain ⟨call₂₃, page₂₃, hserves₂₃⟩ := serves_of_range hrpc (USize.le_trans h₁ h₁₂) h₂₃
  obtain ⟨call₁₃, page₁₃, hserves₁₃⟩ := serves_of_range hrpc h₁ (USize.le_trans h₁₂ h₂₃)
  refine ⟨call₁₂, call₂₃, call₁₃, page₁₂, page₂₃, page₁₃, hserves₁₂, hserves₂₃, hserves₁₃,
    ?_, ?_, ?_⟩
  · rw [hserves₁₂.positions_eq, hserves₂₃.positions_eq]
    exact Finset.Ico_disjoint_Ico_consecutive _ _ _
  · rw [hserves₁₂.positions_eq, hserves₂₃.positions_eq, hserves₁₃.positions_eq]
    exact Finset.Ico_union_Ico_eq_Ico (by omega) (by omega)
  · have hcount : s₃.toNat - s₁.toNat = (s₂.toNat - s₁.toNat) + (s₃.toNat - s₂.toNat) := by omega
    have hskip : s₂.toNat - 1 = s₁.toNat - 1 + (s₂.toNat - s₁.toNat) := by omega
    have hentries₂₃ := hserves₂₃.entries
    rw [hskip] at hentries₂₃
    calc page₁₃.Perm (window (s₁.toNat - 1) (s₃.toNat - s₁.toNat) recent) := hserves₁₃.entries
      _ = window (s₁.toNat - 1) (s₂.toNat - s₁.toNat) recent ++
          window (s₁.toNat - 1 + (s₂.toNat - s₁.toNat)) (s₃.toNat - s₂.toNat) recent := by
        rw [hcount, window_append]
      List.Perm _ (page₁₂ ++ page₂₃) := (hserves₁₂.entries.append hentries₂₃).symm

/-! ## Section 4: Paging -/

/-- What paging promises for a request, on a wallet with these entries. -/
structure Pages (overflow_checks : Bool) (rpc : Rpc) (recent : List ListTransactionResult)
    (start_offset end_offset : USize) : Prop where
  computed : Computed overflow_checks rpc start_offset end_offset
  tiles : ∀ s₁ s₂ s₃, 1 ≤ s₁ → s₁ ≤ s₂ → s₂ ≤ s₃ → Tiles overflow_checks rpc recent s₁ s₂ s₃

/-- In either build, exactly the offsets in range are served as promised. -/
theorem list_transactions_pages_iff (hrpc : ListsRecent rpc recent) :
    Pages overflow_checks rpc recent start_offset end_offset ↔
      1 ≤ start_offset ∧ start_offset ≤ end_offset := by
  constructor
  · intro h
    exact computed_iff.mp h.computed
  · intro h
    refine ⟨computed_iff.mpr h, ?_⟩
    intro s₁ s₂ s₃ h₁ h₁₂ h₂₃
    exact WalletEndpoints.tiles hrpc h₁ h₁₂ h₂₃

section samples

def sampleRecent : List ListTransactionResult := [⟨30, .null⟩, ⟨20, .null⟩, ⟨10, .null⟩]

/-- Bitcoind lists the oldest entry of a window first. -/
def sampleRpc : Rpc := fun count skip => .ok (window skip.toNat count.toNat sampleRecent).reverse

theorem listsRecent_sampleRpc : ListsRecent sampleRpc sampleRecent :=
  fun _ _ => ⟨_, rfl, List.reverse_perm _⟩

theorem list_transactions_pages_first :
    Pages true sampleRpc sampleRecent 1 3 := by
  refine (list_transactions_pages_iff listsRecent_sampleRpc).mpr ⟨USize.le_refl 1, ?_⟩
  rw [USize.le_iff_toNat_le]
  simp

/-- The first page, counted from 0: one build panics, the other skips all entries there can be. -/
theorem list_transactions_not_pages :
    ¬ Pages true sampleRpc sampleRecent 0 10 ∧ ¬ Pages false sampleRpc sampleRecent 0 10 := by
  have hrange : ¬ (1 : USize) ≤ 0 := by
    rw [USize.le_iff_toNat_le]
    simp
  constructor
  · intro h
    exact hrange (computed_iff.mp h.computed).1
  · intro h
    exact hrange (computed_iff.mp h.computed).1

end samples

end WalletEndpoints

end OrcaNet
