import DocLoad.Error
import DocLoad.Server.Address
import DocLoad.Server.Reply

/-!
# DocLoad.Server.Deployment — servers that can be reached

A `Deployment` is what a run can reach: some hosts, the answer to a ping, and the replies to the
commands that follow it.  Connecting reads the connection string, finds a host and sends one ping.
-/

namespace DocLoad.Server

/-- Servers that act as one: the hosts that reach them, the answer to a ping, and the replies to
other commands in order. -/
structure Deployment where
  reaches : Host → Bool
  pingReply : Document
  replies : List Document

namespace Deployment

/-- A deployment that no host reaches. -/
def unreachable : Deployment := ⟨fun _ => false, [], []⟩

/-- Connects to the deployment that a connection string names.  Gives the commands that were sent
as well. -/
def connect (d : Deployment) (url : String) : Except Error Unit × List Command :=
  match Address.read url with
  | .error detail => (.error (.connection detail), [])
  | .ok address =>
    if !address.lookedUp && address.hosts.any d.reaches then
      match checkOk d.pingReply with
      | .error e => (.error (.connection e.message), [ping])
      | .ok () => (.ok (), [ping])
    else (.error (.connection "no server can be reached"), [])

end Deployment
end DocLoad.Server
