import OrcaNet.Network.EventLoop

/-! # Provider records

    The keys of the provider records that the node keeps up on the DHT, and what
    the network loop does to them when it handles a command.  A command over
    which the loop panics has no result: no command is taken from then on. -/

namespace OrcaNet

namespace NetworkEventLoop

/-- The provider records after a call to libp2p. -/
def record (provided : Finset String) : SwarmCall → Finset String
  | .start_providing key => insert key provided
  | .stop_providing key => provided.erase key
  | _ => provided

/-- The provider records after a command was handled, unless the loop panicked. -/
def handled (swarm : Swarm) (c : NetworkCommand) (provided : Finset String) :
    Option (Finset String) :=
  let o := handle_command (fun _ => true) .new swarm c
  match o.phase with
  | .panicked _ => none
  | _ => some (o.calls.foldl record provided)

variable {swarm : Swarm} {key : String} {sender : Sender} {provided provided' : Finset String}

theorem handled_start_providing
    (h : handled swarm (.StartProviding key sender) provided = some provided') :
    provided' = insert (Utils.get_key_with_ns key) provided := by
  cases hstart : swarm.start_providing with
  | ok query_id =>
    simp only [handled, handle_command, hstart] at h
    exact (Option.some.inj h).symm
  | error e =>
    simp only [handled, handle_command, hstart] at h
    cases h

theorem handled_stop_providing (h : handled swarm (.StopProviding key) provided = some provided') :
    provided' = provided.erase (Utils.get_key_with_ns key) :=
  (Option.some.inj h).symm

theorem handled_respond {response : OrcaNetResponse F64} {channel : ResponseChannel}
    (h : handled swarm (.Respond response channel) provided = some provided') :
    provided' = provided := by
  cases hsend : swarm.send_response with
  | ok _ =>
    simp only [handled, handle_command, hsend] at h
    exact (Option.some.inj h).symm
  | error e =>
    simp only [handled, handle_command, hsend] at h
    cases h

end NetworkEventLoop

end OrcaNet
