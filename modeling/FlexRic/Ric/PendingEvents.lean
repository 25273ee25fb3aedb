import FlexRic.Ds.BiMap
import FlexRic.E2ap.Types

/-! # The RIC's table of pending events

`near_ric.c` and `msg_handler_ric.c`: a request that was passed on to an E2 node waits for the answer under
the timer armed for it. -/

namespace FlexRic.Ric
open Ds E2ap

/-- `pending_event_ric_t` -/
structure PendingEventRic where
  ev : PendingEvent
  id : RicGenId
  deriving DecidableEq, Repr

/-- `cmp_pending_event_ric` -/
def cmpPendingEventRic (p1 p2 : PendingEventRic) : Int :=
  let cmpEv := cmpPendingEvent p1.ev p2.ev
  if cmpEv ≠ 0 then cmpEv
  else cmpRicGenId p1.id p2.id

theorem cmpPendingEventRic_eq (a b : PendingEventRic) : cmpPendingEventRic a b =
    (Comparator.lex (Comparator.comap PendingEventRic.ev pendingEventOrder)
      (Comparator.comap PendingEventRic.id ricGenIdOrder)).cmp a b := by
  simp only [cmpPendingEventRic, Comparator.lex, Comparator.comap, pendingEventOrder, ricGenIdOrder,
    Comparator.ofEq_cmp]
  exact ite_not ..

def pendingEventRicOrder : Comparator PendingEventRic := Comparator.ofEq _ cmpPendingEventRic cmpPendingEventRic_eq

theorem same_pendingEventRic {a b : PendingEventRic} : pendingEventRicOrder.Same a b ↔ a = b := by
  cases a
  cases b
  simp only [pendingEventRicOrder, Comparator.same_ofEq, Comparator.same_lex, Comparator.same_comap,
    same_pendingEvent, same_ricGenId, PendingEventRic.mk.injEq]

/-- `cmp_fd` on the memory of two events: their first field is the kind. -/
def cmpFdOnEvent (p1 p2 : PendingEventRic) : Int := cmpFd p1.ev.value p2.ev.value

/-- `near_ric_t::pending`: the left keys are file descriptors of timers, the right keys events. -/
abbrev PendingEvents := BiMap fdOrder pendingEventRicOrder

/-- `pend_event`: the event of a timer that has expired. -/
def pendEvent (p : PendingEvents) (fd : Nat) : Except String PendingEventRic :=
  if p.size ≠ 1 then .error "bi_map_size(&ric->pending) == 1"
  else
    match p.left.findIf (fd == ·) with
    | none => .error "it != end_it"
    | some (_, ev) => .ok ev

/-- The part of `stop_pending_event` under the lock of the table: the timer of the entry taken out. -/
def stopPendingEvent (p : PendingEvents) (ev : PendingEventRic) : Except String (Nat × PendingEvents) :=
  p.extractRight cmpFdOnEvent ev

end FlexRic.Ric
