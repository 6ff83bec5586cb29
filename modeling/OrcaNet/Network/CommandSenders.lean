import OrcaNet.Network.LoopRuns

/-! # Callers of commands

    Where the reply sender of a command is when `handle_command` is done with
    it.  A sender that is neither sent a result nor stored is dropped, and the
    caller's `receiver.await.expect(..)` panics.

    `Ended` lists the ways in which the handling of a command with a sender
    ends; what becomes of the senders is read off it. -/

namespace OrcaNet

open NetworkEventLoop ReplyCorrelation

namespace CommandSenders

/-! ## Section 1: A command to its end -/

/-- What the stream calls of a command return. -/
structure Streams where
  open_stream : Except String Unit
  write_all : Except String Unit

section commands
variable (alive : Sender → Bool) (s : NetworkEventLoop) (swarm : Swarm) (streams : Streams)

/-- The handling goes on if it waits for this. -/
def go_on (o : Outcome) (wake : Wake) : Outcome :=
  match resume alive o.loop o.phase wake with
  | some o' => { o' with replies := o.replies ++ o'.replies, calls := o.calls ++ o'.calls }
  | none => o

/-- `handle_command` through all its awaits. -/
def complete (c : NetworkCommand) : Outcome :=
  [.opened streams.open_stream, .written streams.write_all, .closed].foldl (go_on alive)
    (handle_command alive s swarm c)

/-- Only `SendInStream` waits for anything. -/
theorem complete_of_ne {c : NetworkCommand}
    (h : ∀ peer_id stream_req sender, c ≠ .SendInStream peer_id stream_req sender) :
    complete alive s swarm streams c = handle_command alive s swarm c := by
  rcases handle_command_settled_of_ne alive s swarm h with hselect | ⟨message, hpanicked⟩
  · simp [complete, go_on, resume, hselect]
  · simp [complete, go_on, resume, hpanicked]

theorem complete_send_in_stream (peer_id : PeerId) (stream_req : StreamReq F64)
    (sender : Option Sender) :
    complete alive s swarm streams (.SendInStream peer_id stream_req sender) =
      match streams.open_stream, streams.write_all with
      | .ok (), .ok () =>
        ⟨.select, register_stream_request s stream_req.request_id sender, [],
          [.open_stream peer_id]⟩
      | _, _ => ⟨.select, s, [], [.open_stream peer_id]⟩ := by
  cases hopen : streams.open_stream with
  | error e => simp [complete, go_on, resume, handle_command, hopen]
  | ok u =>
    cases hwrite : streams.write_all <;>
      simp [complete, go_on, resume, handle_command, hopen, hwrite]

/-! ## Section 2: Entries -/

/-- An entry of one of the seven maps. -/
inductive Slot where
  | dial (peer_id : PeerId)
  | operation (k : Key)
  | stream_request (request_id : String)
  deriving DecidableEq

def entry (s : NetworkEventLoop) : Slot → Option Sender
  | .dial peer_id => s.pending_dial peer_id
  | .operation k => lookup s k
  | .stream_request request_id => s.pending_stream_requests request_id

/-- A new loop has no entries. -/
theorem entry_new (slot : Slot) : entry .new slot = none := by
  cases slot with
  | dial peer_id => rfl
  | operation k => fun_cases lookup .new k <;> rfl
  | stream_request request_id => rfl

/-- The key under which a command stores its sender. -/
def own_slot (swarm : Swarm) : NetworkCommand → Option Slot
  | .Dial peer_id _ _ => some (.dial peer_id)
  | .SendInStream _ stream_req _ => some (.stream_request stream_req.request_id)
  | c => (started swarm c).map fun p => .operation p.1

theorem own_slot_of_caller {c : NetworkCommand} {sender : Sender} (h : caller c = some sender) :
    own_slot swarm c = (started swarm c).map fun p => .operation p.1 := by
  cases c <;> first | rfl | cases h

theorem entry_set_dial (peer_id : PeerId) (x : Option Sender) :
    entry { s with pending_dial := Correlator.set s.pending_dial peer_id x } =
      Correlator.set (entry s) (.dial peer_id) x := by
  funext slot
  by_cases hslot : slot = .dial peer_id
  · subst hslot
    simp [entry]
  · rw [Correlator.set_ne _ _ hslot]
    cases slot with
    | dial peer => exact Correlator.set_ne _ _ (by simpa using hslot)
    | operation k => exact congrFun (LoopRuns.lookup_pending_dial s _) k
    | stream_request request_id => rfl

theorem entry_set_stream_request (request_id : String) (x : Option Sender) :
    entry { s with
        pending_stream_requests := Correlator.set s.pending_stream_requests request_id x } =
      Correlator.set (entry s) (.stream_request request_id) x := by
  funext slot
  by_cases hslot : slot = .stream_request request_id
  · subst hslot
    simp [entry]
  · rw [Correlator.set_ne _ _ hslot]
    cases slot with
    | dial peer => rfl
    | operation k => exact congrFun (LoopRuns.lookup_pending_stream_requests s _) k
    | stream_request id => exact Correlator.set_ne _ _ (by simpa using hslot)

/-- A change to the entry of one operation. -/
theorem entry_of_lookup {s s' : NetworkEventLoop} {k : Key} {x : Option Sender}
    (hlookup : lookup s' = Correlator.set (lookup s) k x)
    (hdial : s'.pending_dial = s.pending_dial)
    (hstreams : s'.pending_stream_requests = s.pending_stream_requests) :
    entry s' = Correlator.set (entry s) (.operation k) x := by
  funext slot
  by_cases hslot : slot = .operation k
  · subst hslot
    simp [entry, hlookup]
  · rw [Correlator.set_ne _ _ hslot]
    cases slot with
    | dial peer => exact congrFun hdial peer
    | operation i =>
      have hik : i ≠ k := by simpa using hslot
      show lookup s' i = lookup s i
      rw [hlookup, Correlator.set_ne _ _ hik]
    | stream_request request_id => exact congrFun hstreams request_id

theorem entry_insert_at (sender : Sender) (k : Key) :
    entry (insert_at s sender k) = Correlator.set (entry s) (.operation k) (some sender) := by
  refine entry_of_lookup (lookup_insert_at s sender k) ?_ ?_
  · fun_cases insert_at s sender k <;> rfl
  · fun_cases insert_at s sender k <;> rfl

theorem entry_remove_at (k : Key) :
    entry (remove_at s k) = Correlator.set (entry s) (.operation k) none := by
  refine entry_of_lookup (lookup_remove_at s k) ?_ ?_
  · fun_cases remove_at s k <;> rfl
  · fun_cases remove_at s k <;> rfl

/-! ## Section 3: How the handling ends -/

/-- What a command with a sender needs of the state and of libp2p not to panic:
    nobody waits for a dial of the peer, and the store takes the record. -/
def Accepted : NetworkCommand → Prop
  | .Dial peer_id _ _ => s.pending_dial peer_id = none
  | .StartProviding _ _ => ∃ query_id, swarm.start_providing = .ok query_id
  | .PutKV _ _ _ => ∃ query_id, swarm.put_record = .ok query_id
  | _ => True

/-- The stream of a `SendInStream` is opened and written. -/
def Delivered : NetworkCommand → Prop
  | .SendInStream _ _ _ => streams.open_stream = .ok () ∧ streams.write_all = .ok ()
  | _ => True

/-- `send` is called on the sender, whether or not its receiver is still there. -/
def Sent (c : NetworkCommand) (sender : Sender) : Prop :=
  ∃ reply, (sender, reply) ∈ (complete (fun _ => true) s swarm streams c).replies

/-- The ways in which the handling ends. -/
inductive Ended (c : NetworkCommand) (sender : Sender) : Prop where
  | panicked (message : String) (haccepted : ¬ Accepted s swarm c)
      (hphase : (complete alive s swarm streams c).phase = .panicked message)
  /-- The caller gets the result of `listen_on`, or the error of `dial`. -/
  | answered (haccepted : Accepted s swarm c) (hdelivered : Delivered streams c)
      (hfree : ∀ slot, own_slot swarm c = some slot → entry s slot = none)
      (hphase : (complete alive s swarm streams c).phase = .select)
      (hloop : (complete alive s swarm streams c).loop = s)
      (hsent : Sent s swarm streams c sender)
  | stored (slot : Slot) (haccepted : Accepted s swarm c) (hdelivered : Delivered streams c)
      (hslot : own_slot swarm c = some slot)
      (hphase : (complete alive s swarm streams c).phase = .select)
      (hloop : entry (complete alive s swarm streams c).loop =
        Correlator.set (entry s) slot (some sender))
  /-- The stream was not opened or not written. -/
  | lost (haccepted : Accepted s swarm c) (hdelivered : ¬ Delivered streams c)
      (hphase : (complete alive s swarm streams c).phase = .select)
      (hloop : (complete alive s swarm streams c).loop = s)
      (hsent : ¬ Sent s swarm streams c sender)

/-- An operation of libp2p is started or refused. -/
theorem accepted_iff_of_caller {c : NetworkCommand} {sender : Sender}
    (h : caller c = some sender) : Accepted s swarm c ↔ (started swarm c).isSome = true := by
  cases c with
  | StartProviding key sender =>
    cases hres : swarm.start_providing <;> simp [Accepted, started, hres, Except.toOption]
  | PutKV key value sender =>
    cases hres : swarm.put_record <;> simp [Accepted, started, hres, Except.toOption]
  | GetProviders key sender => exact iff_of_true trivial rfl
  | GetValue key sender => exact iff_of_true trivial rfl
  | Request request peer sender => exact iff_of_true trivial rfl
  | _ => cases h

theorem ended_of_caller {c : NetworkCommand} {sender : Sender} (h : caller c = some sender) :
    Ended alive s swarm streams c sender := by
  have hcomplete : complete alive s swarm streams c =
      handle_command (fun _ => true) s swarm c := by
    rw [complete_of_ne]
    · cases c <;> first | rfl | cases h
    · intro peer_id stream_req other hc
      rw [hc] at h
      cases h
  have hdelivered : Delivered streams c := by cases c <;> trivial
  have haccepted := accepted_iff_of_caller s swarm h
  rcases handle_command_of_caller s swarm (c := c) (by simp [h]) with
    ⟨k, stored, hstarted, hcaller, hphase, hloop, -⟩ | ⟨hstarted, -, -, message, hphase, -⟩
  · obtain rfl := Option.some.inj (hcaller.symm.trans h)
    refine .stored (.operation k) ?_ hdelivered ?_ (by rw [hcomplete, hphase]) ?_
    · exact haccepted.mpr (by simp [hstarted])
    · rw [own_slot_of_caller swarm h, hstarted]
      rfl
    · rw [hcomplete, hloop, entry_insert_at]
  · refine .panicked message ?_ (by rw [hcomplete, hphase])
    rw [haccepted, hstarted]
    exact Bool.false_ne_true

theorem ended_dial (peer_id : PeerId) (peer_addr : Multiaddr) (sender : Sender) :
    Ended alive s swarm streams (.Dial peer_id peer_addr sender) sender := by
  have hcomplete : ∀ alive, complete alive s swarm streams (.Dial peer_id peer_addr sender) =
      handle_command alive s swarm (.Dial peer_id peer_addr sender) :=
    fun alive => complete_of_ne alive s swarm streams (by simp)
  cases hdial : s.pending_dial peer_id with
  | some other =>
    refine .panicked "not yet implemented: Already dialing peer." (by simp [Accepted, hdial]) ?_
    simp [hcomplete, handle_command, hdial]
  | none =>
    cases hres : swarm.dial with
    | ok u =>
      refine .stored (.dial peer_id) hdial trivial rfl ?_ ?_
      · simp [hcomplete, handle_command, hdial, hres]
      · rw [← entry_set_dial]
        simp only [hcomplete, handle_command, hdial, hres]
        rfl
    | error e =>
      refine .answered hdial trivial ?_ ?_ ?_ ⟨.dialed (.error e), ?_⟩
      · intro slot hslot
        obtain rfl := Option.some.inj hslot
        exact hdial
      all_goals simp [hcomplete, handle_command, hdial, hres, send]

/-- The sender is stored only after the request was written. -/
theorem ended_send_in_stream (peer_id : PeerId) (stream_req : StreamReq F64) (sender : Sender) :
    Ended alive s swarm streams (.SendInStream peer_id stream_req (some sender)) sender := by
  by_cases hdelivered : streams.open_stream = .ok () ∧ streams.write_all = .ok ()
  · have hcomplete : complete alive s swarm streams
        (.SendInStream peer_id stream_req (some sender)) = _ :=
      complete_send_in_stream alive s swarm streams peer_id stream_req (some sender)
    simp only [hdelivered.1, hdelivered.2] at hcomplete
    refine .stored (.stream_request stream_req.request_id) trivial hdelivered rfl ?_ ?_
    · rw [hcomplete]
    · rw [hcomplete, ← entry_set_stream_request]
      rfl
  · have hcomplete : ∀ alive, complete alive s swarm streams
        (.SendInStream peer_id stream_req (some sender)) =
          ⟨.select, s, [], [.open_stream peer_id]⟩ := by
      intro alive
      rw [complete_send_in_stream]
      split
      · rename_i hopen hwrite
        exact absurd ⟨hopen, hwrite⟩ hdelivered
      · rfl
    refine .lost trivial hdelivered ?_ ?_ ?_
    · rw [hcomplete]
    · rw [hcomplete]
    · intro hsent
      obtain ⟨reply, hreply⟩ := hsent
      rw [hcomplete] at hreply
      cases hreply

theorem ended {c : NetworkCommand} {sender : Sender} (h : c.sender = some sender) :
    Ended alive s swarm streams c sender := by
  cases c with
  | StartListening addr caller =>
    obtain rfl := Option.some.inj h
    exact .answered trivial trivial (by simp [own_slot, started]) rfl rfl
      ⟨_, List.mem_singleton.mpr rfl⟩
  | Dial peer_id peer_addr caller =>
    obtain rfl := Option.some.inj h
    exact ended_dial alive s swarm streams peer_id peer_addr caller
  | SendInStream peer_id stream_req caller =>
    obtain rfl : caller = some sender := h
    exact ended_send_in_stream alive s swarm streams peer_id stream_req sender
  | StopProviding key => cases h
  | Respond response channel => cases h
  | _ => exact ended_of_caller alive s swarm streams h

/-! ## Section 4: Conservation -/

/-- The sender of the command was sent a result or is stored under the command's
    own key, and every entry is still there. -/
structure Conserved (c : NetworkCommand) (sender : Sender) : Prop where
  caller : Sent s swarm streams c sender ∨ ∃ slot, own_slot swarm c = some slot ∧
    entry (complete alive s swarm streams c).loop slot = some sender
  kept : ∀ slot other, entry s slot = some other →
    entry (complete alive s swarm streams c).loop slot = some other

/-- The stream takes the request, and nobody waits under the command's key. -/
structure Places (c : NetworkCommand) : Prop where
  delivered : Delivered streams c
  free : ∀ slot, own_slot swarm c = some slot → entry s slot = none

def Returns (c : NetworkCommand) : Prop :=
  (complete alive s swarm streams c).phase = .select

variable {alive s swarm streams}

theorem Ended.returns_iff {c : NetworkCommand} {sender : Sender}
    (h : Ended alive s swarm streams c sender) :
    Returns alive s swarm streams c ↔ Accepted s swarm c := by
  unfold Returns
  cases h with
  | panicked message haccepted hphase => simp [hphase, haccepted]
  | answered haccepted hdelivered hfree hphase => exact iff_of_true hphase haccepted
  | stored slot haccepted hdelivered hslot hphase => exact iff_of_true hphase haccepted
  | lost haccepted hdelivered hphase => exact iff_of_true hphase haccepted

theorem Ended.conserved_iff_places {c : NetworkCommand} {sender : Sender}
    (h : Ended alive s swarm streams c sender) (hmoved : ∀ slot, entry s slot ≠ some sender)
    (haccepted : Accepted s swarm c) :
    Conserved alive s swarm streams c sender ↔ Places s swarm streams c := by
  cases h with
  | panicked message hnot => exact absurd haccepted hnot
  | answered _ hdelivered hfree hphase hloop hsent =>
    refine iff_of_true ⟨Or.inl hsent, ?_⟩ ⟨hdelivered, hfree⟩
    rw [hloop]
    exact fun _ _ hentry => hentry
  | stored slot _ hdelivered hslot hphase hloop =>
    constructor
    · intro hconserved
      refine ⟨hdelivered, fun slot' hslot' => ?_⟩
      obtain rfl := Option.some.inj (hslot.symm.trans hslot')
      cases hentry : entry s slot with
      | none => rfl
      | some other =>
        -- the new entry took the place of this one
        have hkept := hconserved.kept slot other hentry
        rw [hloop, Correlator.set_self] at hkept
        exact absurd (hentry.trans hkept.symm) (hmoved slot)
    · intro hplaces
      refine ⟨Or.inr ⟨slot, hslot, by rw [hloop, Correlator.set_self]⟩, ?_⟩
      intro slot' other hentry
      have hne : slot' ≠ slot := by
        rintro rfl
        rw [hplaces.free slot' hslot] at hentry
        cases hentry
      rw [hloop, Correlator.set_ne _ _ hne, hentry]
  | lost _ hdelivered hphase hloop hsent =>
    refine iff_of_false ?_ (fun hplaces => hdelivered hplaces.delivered)
    intro hconserved
    rcases hconserved.caller with hdone | ⟨slot, -, hentry⟩
    · exact hsent hdone
    · rw [hloop] at hentry
      exact hmoved slot hentry

/-- **Reply senders.**  A command whose sender was not stored before returns
    without losing a sender exactly if it is accepted, its stream takes the
    request, and nobody waits under its key; and where it is accepted, it is the
    last two that decide. -/
theorem conserved_iff {c : NetworkCommand} {sender : Sender} (h : c.sender = some sender)
    (hmoved : ∀ slot, entry s slot ≠ some sender) :
    ((Returns alive s swarm streams c → Conserved alive s swarm streams c sender) ↔
        (Accepted s swarm c → Places s swarm streams c)) ∧
      ((Returns alive s swarm streams c ∧ Conserved alive s swarm streams c sender) ↔
        Accepted s swarm c ∧ Places s swarm streams c) := by
  have hended := ended alive s swarm streams h
  rw [hended.returns_iff]
  exact ⟨imp_congr_right fun haccepted => hended.conserved_iff_places hmoved haccepted,
    and_congr_right fun haccepted => hended.conserved_iff_places hmoved haccepted⟩

end commands

section samples

/-- A stream request of the caller with sender 10. -/
def sampleCommand : NetworkCommand :=
  .SendInStream ⟨"peer"⟩ ⟨"uuid", .Request (.FileContentRequest "file")⟩ (some 10)

/-- The peer takes the request: the caller waits for its response. -/
theorem conserved_iff_sampleCommand :
    Returns (fun _ => true) .new sampleSwarm ⟨.ok (), .ok ()⟩ sampleCommand ∧
      Conserved (fun _ => true) .new sampleSwarm ⟨.ok (), .ok ()⟩ sampleCommand 10 := by
  refine (conserved_iff rfl fun slot => by simp [entry_new]).2.mpr ⟨trivial, ⟨rfl, rfl⟩, ?_⟩
  exact fun slot _ => entry_new slot

/-- The peer does not open the stream: the command returns, and nobody has the
    sender. -/
theorem not_conserved_sampleCommand :
    sampleCommand.sender = some 10 ∧
      Returns (fun _ => true) .new sampleSwarm ⟨.error "no stream", .ok ()⟩ sampleCommand ∧
      ¬ Conserved (fun _ => true) .new sampleSwarm ⟨.error "no stream", .ok ()⟩ sampleCommand
        10 := by
  refine ⟨rfl, rfl, fun h => ?_⟩
  rcases h.caller with ⟨reply, hreply⟩ | ⟨slot, -, hentry⟩
  · cases hreply
  · exact absurd ((entry_new slot).symm.trans hentry) (by simp)

end samples

end CommandSenders

end OrcaNet
