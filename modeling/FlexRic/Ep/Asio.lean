import FlexRic.Lib.Except

/-! # The descriptors that `epoll` watches

`rm_fd_asio_agent` and `rm_fd_asio_xapp` are one function. -/

namespace FlexRic.Ep

/-- `EPOLL_CTL_DEL` and `close`: the kernel knows the descriptor. -/
def rmFdAsio (io : List Nat) (fd : Nat) : Except String (List Nat) :=
  if fd ∈ io then .ok (io.erase fd) else .error "rc != -1"

theorem rmFdAsio_eq_ok {io io' : List Nat} {fd : Nat} : rmFdAsio io fd = .ok io' ↔ fd ∈ io ∧ io' = io.erase fd := by
  unfold rmFdAsio
  split <;> simp_all [eq_comm]

end FlexRic.Ep
