import RmqMgr.Session.Took
import RmqMgr.Tcp.Isolation

set_option autoImplicit false

namespace RmqMgr.Session

open Transition

variable {lib : Library}

def ownData (w : World) (e : Event) : Prop :=
  ∀ moved ∈ w.target e, Tcp.ownData (w.tcps moved.1) moved.2

instance (w : World) (e : Event) : Decidable (ownData w e) :=
  inferInstanceAs (Decidable (∀ _ ∈ _, _))

open Run

def publishes (k : ConnId) : List Event :=
  [.publishMsg [7], .onData k .posted [7], runs]

end RmqMgr.Session
