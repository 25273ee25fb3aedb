import Mathlib.Order.Nat
import FlexRic.Lib.Comparator

/-! # Where a message comes from

The socket address and the ancillary data that go with every SCTP message, and the comparison of two of
them. -/

namespace FlexRic.Ep
open Comparator (by_ lex ofEq by_cmp lex_by_cmp)

/-- `sctp_info_t`: the fields of the IPv4 address, its padding (the first byte, and the last four as one
number), and the first two fields of the ancillary data. -/
structure SctpInfo where
  sinFamily : Nat
  sinPort : Nat
  sinAddr : Nat
  sinZero0 : Nat
  sinZero4 : Nat
  sinfoStream : Nat
  sinfoSsn : Nat
  deriving DecidableEq, Repr

/-- `cmp_sockaddr_in` -/
def cmpSockaddrIn (m0 m1 : SctpInfo) : Int :=
  if m0.sinPort < m1.sinPort then 1
  else if m0.sinPort > m1.sinPort then -1
  else if m0.sinAddr < m1.sinAddr then 1
  else if m0.sinAddr > m1.sinAddr then -1
  else if m0.sinFamily < m1.sinFamily then 1
  else if m0.sinFamily > m1.sinFamily then -1
  else 0

/-- `cmp_sctp_sndrcvinfo` -/
def cmpSctpSndrcvinfo (_ _ : SctpInfo) : Int := 0

/-- `cmp_sctp_info_wrapper`, of two addresses that are there. -/
def cmpSctpInfo (m0 m1 : SctpInfo) : Int :=
  let cmp := cmpSockaddrIn m0 m1
  if cmp ≠ 0 then cmp
  else cmpSctpSndrcvinfo m0 m1

theorem cmpSctpInfo_eq (a b : SctpInfo) : cmpSctpInfo a b =
    (lex (by_ SctpInfo.sinPort) (lex (by_ SctpInfo.sinAddr) (by_ SctpInfo.sinFamily))).cmp a b := by
  rw [lex_by_cmp, lex_by_cmp, by_cmp]
  simp only [cmpSctpInfo, cmpSctpSndrcvinfo, cmpSockaddrIn]
  grind

def sctpInfoOrder : Comparator SctpInfo := ofEq _ cmpSctpInfo cmpSctpInfo_eq

/-- Two messages of one peer: the same address and port, whatever else came with them. -/
def SctpInfo.SamePeer (a b : SctpInfo) : Prop :=
  a.sinPort = b.sinPort ∧ a.sinAddr = b.sinAddr ∧ a.sinFamily = b.sinFamily

instance (a b : SctpInfo) : Decidable (a.SamePeer b) := inferInstanceAs (Decidable (_ ∧ _))

/-- What tells peers apart. -/
def SctpInfo.peer (m : SctpInfo) : Nat × Nat × Nat := (m.sinPort, m.sinAddr, m.sinFamily)

theorem SctpInfo.samePeer_iff {a b : SctpInfo} : a.SamePeer b ↔ a.peer = b.peer := by
  simp [SctpInfo.SamePeer, SctpInfo.peer]

theorem SctpInfo.SamePeer.symm {a b : SctpInfo} (h : a.SamePeer b) : b.SamePeer a :=
  SctpInfo.samePeer_iff.mpr (SctpInfo.samePeer_iff.mp h).symm

theorem SctpInfo.SamePeer.trans {a b c : SctpInfo} (h : a.SamePeer b) (h' : b.SamePeer c) : a.SamePeer c :=
  SctpInfo.samePeer_iff.mpr ((SctpInfo.samePeer_iff.mp h).trans (SctpInfo.samePeer_iff.mp h'))

theorem same_sctpInfo {a b : SctpInfo} : sctpInfoOrder.Same a b ↔ a.SamePeer b := by
  simp only [sctpInfoOrder, Comparator.same_ofEq, Comparator.same_lex, Comparator.same_by, SctpInfo.SamePeer]

/-- The address of a peer on the local host. -/
def localHost (port : Nat) : SctpInfo := ⟨2, port, 0x0100007F, 0, 0, 0, 0⟩

end FlexRic.Ep
