import FlexRic.Ds.BiMap
import FlexRic.E2ap.Types

/-! # The xApp's table of pending events (`pending_event_xapp.c`)

A request that the xApp has sent waits for its answer under the timer armed for it: the table pairs the
file descriptor of the timer with the event. -/

namespace FlexRic.XApp
open Ds E2ap

/-- `pending_event_xapp_t` -/
structure PendingEventXapp where
  ev : PendingEvent
  id : RicGenId
  waitMs : Nat
  deriving DecidableEq, Repr

/-- `eq_pending_event_xapp` -/
def eqPendingEventXapp (m0 m1 : PendingEventXapp) : Bool := m0.ev = m1.ev && m0.id = m1.id

/-- The right keys are compared with `cmp_pending_event`, which reads the first field of the record. -/
def pendingEventXappOrder : Comparator PendingEventXapp := Comparator.comap PendingEventXapp.ev pendingEventOrder

/-- `cmp_fd` on the memory of two events: the first field is the kind again. -/
def cmpFdOnEvent (m0 m1 : PendingEventXapp) : Int := cmpFd m0.ev.value m1.ev.value

/-- `pending_event_xapp_ds_t`: the left keys are file descriptors, the right keys events. -/
abbrev PendingEvents := BiMap fdOrder pendingEventXappOrder

/-- `add_pending_event` -/
def addPendingEvent (p : PendingEvents) (fd : Nat) (ev : PendingEventXapp) : Except String PendingEvents :=
  if fd > 0 then .ok (p.insert fd ev) else .error "fd > 0"

/-- `find_pending_event_fd`, with the event that `pend_event` reads at the entry found. -/
def findPendingEventFd (p : PendingEvents) (fd : Nat) : Option PendingEventXapp :=
  (p.left.findIf (fd == ·)).map (·.2)

/-- `rm_pending_event_ev`: the file descriptor of the entry removed. -/
def rmPendingEventEv (p : PendingEvents) (ev : PendingEventXapp) : Except String (Nat × PendingEvents) := do
  let sz := p.size
  let (fd, p') ← p.extractRight cmpFdOnEvent ev
  if sz ≠ p'.size + 1 then .error "sz == bi_map_size(&p->pending) + 1"
  else if fd > 0 then .ok (fd, p')
  else .error "fd != NULL && *fd > 0"

/-- The event that the handler of an answer makes up to look for the request: no waiting time. -/
def PendingEventXapp.answered (ev : PendingEventXapp) : PendingEventXapp := { ev with waitMs := 0 }

/-- The table after the requests of `es` were registered, each with its timer. -/
def registerAll (es : List (Nat × PendingEventXapp)) : PendingEvents :=
  es.foldr (fun e p => p.insert e.1 e.2) .init

end FlexRic.XApp
