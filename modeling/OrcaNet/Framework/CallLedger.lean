import Mathlib.Algebra.Order.BigOperators.Group.List
import OrcaNet.Framework.RemoteCall

/-! # The callers of remote calls

    Every call has a ticket: its id, what it asks for, and the channel that its
    caller waits on.  The ledger relates the tickets, and the answers that were
    put into the channels, to the stages of the calls: ids and channels are new
    when they are used, and a caller that got a result got the one its call was
    served with.

    Each lemma is about one thing that can happen: a call moves on, channels are
    made and answered, a ticket is issued.

    A log with entries of another type is compared with the calls that were
    served: each has one entry, with the ticket of its call.

    The last section weighs calls: what was served weighs no more than the
    tickets, and no less than what returned. -/

namespace RemoteCall

universe u v w x y z

variable {Id : Type u} {Node : Type v} {Req : Type w} {Res : Type x} {Chan : Type y}
  {Answer : Type z}

structure Ticket (Id : Type u) (Node : Type v) (Req : Type w) (Chan : Type y) where
  id : Id
  call : Call Node Req
  channel : Chan

/-- The call `id`, which was not served, moves on and no other one. -/
structure Advances (t t' : State Id Node Req Res) (id : Id) : Prop where
  other : ∀ i, i ≠ id → t'.stage i = t.stage i
  not_served : ∀ c result, t.stage id ≠ .served c result

section advances

variable {t t' : State Id Node Req Res} {id i : Id}

/-- What was served stays served. -/
theorem Advances.served (h : Advances t t' id) {c : Call Node Req} {result : Res}
    (hserved : t.stage i = .served c result) : t'.stage i = .served c result := by
  rw [h.other i ?_, hserved]
  rintro rfl
  exact h.not_served c result hserved

/-- A call in another stage than the one that moves on is another call. -/
theorem Advances.frame (h : Advances t t' id) (hne : t.stage i ≠ t.stage id) :
    t'.stage i = t.stage i :=
  h.other i fun heq => hne (heq ▸ rfl)

end advances

/-- `value` reads the result in an answer, if it carries one. -/
structure Ledger (value : Answer → Option Res) (t : State Id Node Req Res)
    (tickets : List (Ticket Id Node Req Chan)) (answers : List (Chan × Answer))
    (chans : List Chan) : Prop where
  stages : ∀ c ∈ tickets, (t.stage c.id).call = some c.call
  fresh : ∀ id, id ∉ tickets.map Ticket.id → t.stage id = .idle
  ids : (tickets.map Ticket.id).Nodup
  channels : (tickets.map Ticket.channel).Nodup
  made : ∀ c ∈ tickets, c.channel ∈ chans
  answered : ∀ p ∈ answers, p.1 ∈ chans
  correlated : ∀ c ∈ tickets, ∀ a result, (c.channel, a) ∈ answers → value a = some result →
    t.stage c.id = .served c.call result

section ledger

variable {value : Answer → Option Res} {t t' : State Id Node Req Res} {id : Id}
  {tickets : List (Ticket Id Node Req Chan)} {answers : List (Chan × Answer)} {chans : List Chan}

theorem ledger_init : Ledger value (init : State Id Node Req Res)
    ([] : List (Ticket Id Node Req Chan)) [] [] := by
  constructor <;> simp [init]

/-- A ticket is known by its channel, and by its id. -/
theorem Ledger.eq_of_channel (h : Ledger value t tickets answers chans)
    {c c' : Ticket Id Node Req Chan} (hc : c ∈ tickets) (hc' : c' ∈ tickets)
    (heq : c.channel = c'.channel) : c = c' :=
  List.inj_on_of_nodup_map h.channels hc hc' heq

theorem Ledger.eq_of_id (h : Ledger value t tickets answers chans)
    {c c' : Ticket Id Node Req Chan} (hc : c ∈ tickets) (hc' : c' ∈ tickets)
    (heq : c.id = c'.id) : c = c' :=
  List.inj_on_of_nodup_map h.ids hc hc' heq

/-- A call moves on. -/
theorem Ledger.advance (h : Ledger value t tickets answers chans) (hadv : Advances t t' id)
    (hcall : (t'.stage id).call = (t.stage id).call) (hidle : t.stage id ≠ .idle) :
    Ledger value t' tickets answers chans where
  stages c hc := by
    by_cases hid : c.id = id
    · rw [hid, hcall, ← hid]
      exact h.stages c hc
    · rw [hadv.other _ hid]
      exact h.stages c hc
  fresh i hi := by
    have hold := h.fresh i hi
    rw [hadv.other i ?_, hold]
    rintro rfl
    exact hidle hold
  ids := h.ids
  channels := h.channels
  made := h.made
  answered := h.answered
  correlated c hc a result hmem hvalue := hadv.served (h.correlated c hc a result hmem hvalue)

/-- Channels are made and answered. -/
theorem Ledger.reply (h : Ledger value t tickets answers chans) (new : List (Chan × Answer))
    (made : List Chan) (hmade : ∀ p ∈ new, p.1 ∈ made ++ chans)
    (hcorrelated : ∀ c ∈ tickets, ∀ a result, (c.channel, a) ∈ new → value a = some result →
      t.stage c.id = .served c.call result) :
    Ledger value t tickets (new ++ answers) (made ++ chans) where
  stages := h.stages
  fresh := h.fresh
  ids := h.ids
  channels := h.channels
  made c hc := List.mem_append_right _ (h.made c hc)
  answered p hp := by
    rcases List.mem_append.mp hp with hnew | hold
    · exact hmade p hnew
    · exact List.mem_append_right _ (h.answered p hold)
  correlated c hc a result hmem := by
    rcases List.mem_append.mp hmem with hnew | hold
    · exact hcorrelated c hc a result hnew
    · exact h.correlated c hc a result hold

/-- The same when no answer goes to a ticket: it goes to a channel made now or to
    one of something else. -/
theorem Ledger.reply_other (h : Ledger value t tickets answers chans) (new : List (Chan × Answer))
    (made : List Chan) (hfresh : ∀ ch ∈ made, ch ∉ chans)
    (hother : ∀ p ∈ new, p.1 ∈ made ∨ p.1 ∈ chans ∧ ∀ c ∈ tickets, c.channel ≠ p.1) :
    Ledger value t tickets (new ++ answers) (made ++ chans) := by
  refine h.reply new made (fun p hp => ?_) fun c hc a result hmem _ => ?_
  · rcases hother p hp with hmade | ⟨hold, -⟩
    · exact List.mem_append_left _ hmade
    · exact List.mem_append_right _ hold
  · rcases hother _ hmem with hmade | ⟨-, hne⟩
    · exact absurd (h.made c hc) (hfresh _ hmade)
    · exact absurd rfl (hne c hc)

/-- What was served belongs to a ticket. -/
theorem Ledger.ticket_of_served (h : Ledger value t tickets answers chans) {c : Call Node Req}
    {result : Res} (hserved : t.stage id = .served c result) :
    ∃ ticket ∈ tickets, ticket.id = id ∧ ticket.call = c := by
  have hknown : id ∈ tickets.map Ticket.id := by
    by_contra hnew
    rw [h.fresh id hnew] at hserved
    cases hserved
  obtain ⟨ticket, hmem, rfl⟩ := List.mem_map.mp hknown
  have hcall := h.stages ticket hmem
  rw [hserved] at hcall
  exact ⟨ticket, hmem, rfl, (Option.some.inj hcall).symm⟩

variable [DecidableEq Id]

@[simp] theorem State.set_set (t : State Id Node Req Res) (id : Id) (st st' : Stage Node Req Res) :
    (t.set id st).set id st' = t.set id st' := by
  simp only [State.set, State.mk.injEq, and_true]
  funext i
  split <;> rfl

theorem advances_set {t : State Id Node Req Res} {id : Id} (st : Stage Node Req Res)
    (h : ∀ c result, t.stage id ≠ .served c result) : Advances t (t.set id st) id :=
  ⟨fun _ hi => State.set_ne t st hi, h⟩

/-- The state in which the call `id` is served. -/
def State.serve (t : State Id Node Req Res) (id : Id) (c : Call Node Req) (result : Res) :
    State Id Node Req Res :=
  { t.set id (.served c result) with served := (id, c, result) :: t.served }

@[simp] theorem State.serve_self (t : State Id Node Req Res) (id : Id) (c : Call Node Req)
    (result : Res) : (t.serve id c result).stage id = .served c result :=
  State.set_self t id _

theorem advances_serve {t : State Id Node Req Res} {id : Id} {c : Call Node Req}
    (h : t.stage id = .serving c) (result : Res) : Advances t (t.serve id c result) id :=
  ⟨fun _ hi => State.set_ne t _ hi, by simp [h]⟩

/-- A ticket with a new id and a new channel is issued, and its call begins. -/
theorem Ledger.issue (h : Ledger value t tickets answers chans) {c : Ticket Id Node Req Chan}
    (hid : c.id ∉ tickets.map Ticket.id) (hchannel : c.channel ∉ chans) {st : Stage Node Req Res}
    (hst : st.call = some c.call) :
    Ledger value (t.set c.id st) (c :: tickets) answers (c.channel :: chans) := by
  have hidle := h.fresh _ hid
  have hadv : Advances t (t.set c.id st) c.id := advances_set st (by simp [hidle])
  have hother : ∀ c' ∈ tickets, c'.id ≠ c.id :=
    fun c' hc' heq => hid (heq ▸ List.mem_map_of_mem hc')
  refine ⟨fun c' hc' => ?_, fun i hi => ?_, List.nodup_cons.mpr ⟨hid, h.ids⟩, ?_,
    fun c' hc' => ?_, fun p hp => ?_, fun c' hc' a result hmem hvalue => ?_⟩
  · rcases List.mem_cons.mp hc' with rfl | hc'
    · rw [State.set_self, hst]
    · rw [hadv.other _ (hother c' hc')]
      exact h.stages c' hc'
  · -- ids without a ticket are idle still
    simp only [List.map_cons, List.mem_cons, not_or] at hi
    rw [hadv.other i hi.1]
    exact h.fresh i hi.2
  · -- the channel is new, so no earlier ticket has it
    refine List.nodup_cons.mpr ⟨fun hmem => hchannel ?_, h.channels⟩
    obtain ⟨c', hc', heq⟩ := List.mem_map.mp hmem
    exact heq ▸ h.made c' hc'
  · rcases List.mem_cons.mp hc' with rfl | hc'
    · exact List.mem_cons_self
    · exact List.mem_cons_of_mem _ (h.made c' hc')
  · exact List.mem_cons_of_mem _ (h.answered p hp)
  · rcases List.mem_cons.mp hc' with rfl | hc'
    · -- nothing was put into the channel before it was made
      exact absurd (h.answered _ hmem) hchannel
    · exact hadv.served (h.correlated c' hc' a result hmem hvalue)

end ledger

/-! ### Logs -/

section logs

variable {Entry : Type*} {entry : Entry → Option Id × Call Node Req × Res} {log : List Entry}
  {value : Answer → Option Res} {t : State Id Node Req Res}
  {tickets : List (Ticket Id Node Req Chan)} {answers : List (Chan × Answer)} {chans : List Chan}

/-- The entries are the calls that were served, in their order. -/
def LogOf (entry : Entry → Option Id × Call Node Req × Res) (log : List Entry)
    (t : State Id Node Req Res) : Prop :=
  log.map entry = t.served.map fun e => (some e.1, e.2)

/-- A call is entered when it is served. -/
theorem LogOf.serve [DecidableEq Id] (h : LogOf entry log t) {e : Entry} {id : Id}
    {c : Call Node Req} {result : Res} (he : entry e = (some id, c, result)) :
    LogOf entry (e :: log) (t.serve id c result) :=
  congrArg₂ List.cons he h

/-- A served call has one entry. -/
theorem LogOf.entry_of_served [DecidableEq Id] (h : LogOf entry log t) (hlog : Logged t) {id : Id}
    {c : Call Node Req} {result : Res} (hserved : t.stage id = .served c result) :
    ∃ e, log.filter (fun e => (entry e).1 = some id) = [e] ∧ entry e = (some id, c, result) := by
  have hfilter : (log.filter fun e => (entry e).1 = some id).map entry =
      [(some id, c, result)] := by
    have hmap := congrArg (List.filter fun e => e.1 = some id) h
    rw [List.filter_map, List.filter_map] at hmap
    refine hmap.trans ?_
    simp [Function.comp_def, hlog.filter_eq hserved]
  exact List.map_eq_singleton_iff.mp hfilter

/-- No call has two entries. -/
theorem LogOf.nodup (h : LogOf entry log t) (hlog : Logged t) :
    (log.map fun e => (entry e).1).Nodup := by
  have hids : (log.map fun e => (entry e).1) = (t.served.map Prod.fst).map some := by
    have hmap := congrArg (List.map Prod.fst) h
    simpa only [List.map_map, Function.comp_def] using hmap
  rw [hids]
  exact hlog.once.map fun _ _ h => Option.some.inj h

/-- An entry is the one of a ticket. -/
theorem Ledger.ticket_of_entry (h : Ledger value t tickets answers chans) (hlog : Logged t)
    (hentries : LogOf entry log t) {e : Entry} (he : e ∈ log) :
    ∃ ticket ∈ tickets, (entry e).1 = some ticket.id ∧ (entry e).2.1 = ticket.call := by
  have hmem : entry e ∈ t.served.map fun e => (some e.1, e.2) :=
    hentries ▸ List.mem_map_of_mem he
  obtain ⟨⟨id, c, result⟩, hserved, heq⟩ := List.mem_map.mp hmem
  obtain ⟨ticket, hticket, rfl, rfl⟩ := h.ticket_of_served ((hlog.served _ _ _).mp hserved)
  exact ⟨ticket, hticket, heq ▸ rfl, heq ▸ rfl⟩

end logs

/-! ### Weights -/

section weights

variable {M : Type*} [AddCommMonoid M] [PartialOrder M] [IsOrderedAddMonoid M]

/-- Different entries of another list weigh no more than all of its entries. -/
theorem sum_map_le_of_subset {α : Type*} {l k : List α} (hnodup : l.Nodup) (hsub : l ⊆ k)
    (w : α → M) (hw : ∀ a ∈ k, 0 ≤ w a) : (l.map w).sum ≤ (k.map w).sum := by
  obtain ⟨l', hperm, hsublist⟩ := List.subperm_of_subset hnodup hsub
  rw [← (hperm.map w).sum_eq]
  refine (hsublist.map w).sum_le_sum fun m hm => ?_
  obtain ⟨a, ha, rfl⟩ := List.mem_map.mp hm
  exact hw a ha

variable {value : Answer → Option Res} {t : State Id Node Req Res}
  {tickets : List (Ticket Id Node Req Chan)} {answers : List (Chan × Answer)} {chans : List Chan}

/-- What was served weighs no more than what was called. -/
theorem Ledger.sum_served_le (h : Ledger value t tickets answers chans) (hlog : Logged t)
    (w : Call Node Req → M) (hw : ∀ c ∈ tickets, 0 ≤ w c.call) :
    (t.served.map fun e => w e.2.1).sum ≤ (tickets.map fun c => w c.call).sum := by
  have hle := sum_map_le_of_subset (l := t.served.map fun e => (e.1, e.2.1))
    (k := tickets.map fun c => (c.id, c.call)) ?_ ?_ (fun p => w p.2) ?_
  · simpa only [List.map_map, Function.comp_def] using hle
  · -- the ids alone are different
    have honce := hlog.once
    rw [show t.served.map Prod.fst = (t.served.map fun e => (e.1, e.2.1)).map Prod.fst by
      rw [List.map_map]; rfl] at honce
    exact honce.of_map
  · intro p hp
    obtain ⟨⟨id, c, result⟩, he, rfl⟩ := List.mem_map.mp hp
    obtain ⟨ticket, hticket, rfl, rfl⟩ := h.ticket_of_served ((hlog.served _ _ _).mp he)
    exact List.mem_map_of_mem hticket
  · intro p hp
    obtain ⟨c, hc, rfl⟩ := List.mem_map.mp hp
    exact hw c hc

/-- What returned a result weighs no more than what was served. -/
theorem Ledger.sum_returned_le (h : Ledger value t tickets answers chans) (hlog : Logged t)
    {returned : List (Ticket Id Node Req Chan)} (hnodup : returned.Nodup) (result : Res)
    (hreturned : ∀ c ∈ returned, c ∈ tickets ∧ ∃ a, (c.channel, a) ∈ answers ∧
      value a = some result)
    (w : Call Node Req → Res → M) (hw : ∀ e ∈ t.served, 0 ≤ w e.2.1 e.2.2) :
    (returned.map fun c => w c.call result).sum ≤ (t.served.map fun e => w e.2.1 e.2.2).sum := by
  have hle := sum_map_le_of_subset (l := returned.map fun c => (c.id, c.call, result))
    (k := t.served) ?_ ?_ (fun e => w e.2.1 e.2.2) hw
  · simpa only [List.map_map, Function.comp_def] using hle
  · refine hnodup.map_on fun c hc c' hc' heq => ?_
    exact h.eq_of_id (hreturned c hc).1 (hreturned c' hc').1 (Prod.mk.inj heq).1
  · intro e he
    obtain ⟨c, hc, rfl⟩ := List.mem_map.mp he
    obtain ⟨hticket, a, hmem, hvalue⟩ := hreturned c hc
    exact (hlog.served _ _ _).mpr (h.correlated c hticket a result hmem hvalue)

end weights

end RemoteCall
