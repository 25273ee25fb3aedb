import FlexRic.Ds.Assoc
import FlexRic.E2ap.Types

/-! # The RIC's publishers and subscribers

`near_ric.c` and `msg_handler_ric.c`: which listeners are to get the indications of a RAN function, and the
walk over them when an indication has come. -/

namespace FlexRic.Ric
open Ds E2ap

/-- `subs_ric_t`; the function of a listener is known by its address. -/
structure SubsRic where
  name : String
  fp : Nat
  deriving DecidableEq, Repr

/-- `near_ric_t::pub_sub`: the values of the tree are pointers to arrays of listeners. -/
structure PubSub where
  tree : AssocRbTree ranFuncIdOrder Nat
  arrs : List (List SubsRic)

/-- `init_pub_sub_ds_ric` -/
def PubSub.init : PubSub := ⟨.init, []⟩

/-- `register_listeners_for_ran_func_id` -/
def registerListenersForRanFuncId (ric : PubSub) (ranFuncId : Nat) (subs : SubsRic) : PubSub :=
  match ric.tree.findIf fun key => eqRanFuncId ranFuncId key with
  | none => ⟨ric.tree.insert ranFuncId ric.arrs.length, ric.arrs ++ [[subs]]⟩
  | some (_, arr) => { ric with arrs := ric.arrs.modify arr (· ++ [subs]) }

/-- The listeners of `load_default_pub_sub_ric`; the first one only with `STDOUT_LOG`. -/
def defaultListeners (stdoutLog : Bool) : List SubsRic :=
  (if stdoutLog then [⟨"stdout listener", 1⟩] else []) ++ [⟨"redis listener", 2⟩, ⟨"influx listener", 3⟩]

/-- `load_default_pub_sub_ric`, for the RAN functions of the plugins in their order. -/
def loadDefaultPubSubRic (stdoutLog : Bool) (ric : PubSub) (smDs : List Nat) : PubSub :=
  smDs.foldl (fun ric ranFuncId =>
    (defaultListeners stdoutLog).foldl (fun ric listener => registerListenersForRanFuncId ric ranFuncId listener) ric) ric

/-- `publish_ind_msg`: the calls of listeners, each with the indication that it is called with. -/
def publishIndMsg {Ind : Type} (ric : PubSub) (ranFuncId : Nat) (d : Ind) : Except String (List (Nat × Ind)) :=
  let startIt := ric.tree.front
  match ric.tree.findIf fun key => eqRanFuncId ranFuncId key with
  | none => .error "Could not find a RAN function that matches the SM"
  | some _ =>
    -- The array is read at `start_it`, not at the iterator that was searched for.
    match startIt with
    | none => .error "end iterator passed?"
    | some (_, arr) => .ok ((ric.arrs.getD arr []).map fun sub => (sub.fp, d))

/-- The table after the registrations `regs`, each of a listener for a RAN function. -/
def registerAll (ric : PubSub) (regs : List (Nat × SubsRic)) : PubSub :=
  regs.foldl (fun ric reg => registerListenersForRanFuncId ric reg.1 reg.2) ric

end FlexRic.Ric
