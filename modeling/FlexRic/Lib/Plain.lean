import FlexRic.Lib.Except
import Mathlib.Data.List.Forall2
import Mathlib.Algebra.GroupWithZero.Nat

/-! # Values laid out as bytes

A plain encoding copies a value member by member into a chunk of memory; the decoding copies the members out
again in the same order. Scalars lie in memory with the least significant byte first. -/

namespace FlexRic.Plain

abbrev Bytes := List UInt8

/-- What takes some bytes off the front of a chunk of memory and makes a value of them. -/
abbrev Reader (α : Type) := StateT Bytes (Except String) α

variable {α β : Type}

/-- `memcpy` of the next `n` bytes, which have to be there. -/
def take (n : Nat) : Reader Bytes := fun it =>
  if n ≤ it.length then .ok (it.take n, it.drop n) else .error "read past the end of the chunk"

/-- `assert(it < begin + len)` -/
def withinChunk (msg : String) : Reader Unit := fun it => if it = [] then .error msg else .ok ((), it)

/-! ### What a reader makes of the bytes before it -/

/-- `r` takes `bs` and makes `a` of it, when at least `n` bytes come after. -/
def Reads (n : Nat) (r : Reader α) (bs : Bytes) (a : α) : Prop :=
  ∀ rest : Bytes, n ≤ rest.length → r (bs ++ rest) = .ok (a, rest)

section Reads
variable {n m : Nat} {r : Reader α} {bs bs' : Bytes} {a : α} {b : β}

theorem Reads.of_eq (h : Reads n r bs a) (hbs : bs = bs') : Reads n r bs' a := hbs ▸ h

theorem Reads.pure (a : α) : Reads n (pure a) [] a := fun _ _ => rfl

theorem Reads.bind {f : α → Reader β} (hr : Reads m r bs a) (hf : Reads n (f a) bs' b)
    (hm : m ≤ bs'.length + n) : Reads n (r >>= f) (bs ++ bs') b := by
  intro rest hn
  have hlen : m ≤ (bs' ++ rest).length := by
    rw [List.length_append]
    omega
  show (r (bs ++ bs' ++ rest) >>= fun p => f p.1 p.2) = _
  rw [List.append_assoc, hr _ hlen]
  exact hf rest hn

/-- A reader that does not look past its own bytes, before another one. -/
theorem Reads.andThen {f : α → Reader β} (hr : Reads 0 r bs a) (hf : Reads n (f a) bs' b) :
    Reads n (r >>= f) (bs ++ bs') b :=
  hr.bind hf (Nat.zero_le _)

theorem Reads.last {f : α → β} (hr : Reads n r bs a) : Reads n (r >>= fun a => Pure.pure (f a)) bs (f a) := by
  have h := hr.bind (f := fun a => Pure.pure (f a)) (Reads.pure (n := n) (f a)) (by simp)
  rwa [List.append_nil] at h

theorem Reads.within {msg : String} {f : Unit → Reader β} (hf : Reads n (f ()) bs b) (hn : 0 < bs.length + n) :
    Reads n (withinChunk msg >>= f) bs b := by
  intro rest hrest
  have hne : bs ++ rest ≠ [] := by
    intro h
    have hlen := congrArg List.length h
    rw [List.length_append, List.length_nil] at hlen
    omega
  show (withinChunk msg (bs ++ rest) >>= fun p => f p.1 p.2) = _
  rw [withinChunk, if_neg hne]
  exact hf rest hrest

end Reads

theorem take_reads (bs : Bytes) : Reads 0 (take bs.length) bs bs := by
  intro rest _
  rw [take, if_pos (by simp), List.take_left, List.drop_left]

/-- The bytes between two members of a structure, which no one looks at. -/
def padding (n : Nat) : Bytes := List.replicate n 0

def skip (n : Nat) : Reader Unit := do
  let _ ← take n
  return

@[simp] theorem length_padding (n : Nat) : (padding n).length = n := List.length_replicate

theorem skip_reads (n : Nat) : Reads 0 (skip n) (padding n) () := by
  have h := (take_reads (padding n)).last (f := fun _ => ())
  rwa [length_padding] at h

/-! ### Scalars -/

/-- The lowest `k` bytes of a number. -/
def leBytes : Nat → Nat → Bytes
  | 0, _ => []
  | k + 1, n => UInt8.ofNat n :: leBytes k (n / 256)

def leNat : Bytes → Nat
  | [] => 0
  | b :: bs => b.toNat + 256 * leNat bs

@[simp] theorem length_leBytes (k n : Nat) : (leBytes k n).length = k := by
  induction k generalizing n with
  | zero => rfl
  | succ k ih => rw [leBytes, List.length_cons, ih]

theorem leNat_leBytes {k n : Nat} (h : n < 256 ^ k) : leNat (leBytes k n) = n := by
  induction k generalizing n with
  | zero =>
    obtain rfl : n = 0 := Nat.lt_one_iff.mp h
    rfl
  | succ k ih =>
    have hdiv : n / 256 < 256 ^ k := by
      rw [Nat.div_lt_iff_lt_mul (by decide)]
      exact h
    rw [leBytes, leNat, ih hdiv, UInt8.toNat_ofNat']
    omega

theorem leNat_lt (bs : Bytes) : leNat bs < 256 ^ bs.length := by
  induction bs with
  | nil => exact Nat.one_pos
  | cons b bs ih =>
    have hb := b.toNat_lt
    rw [leNat, List.length_cons, Nat.pow_succ]
    omega

theorem leBytes_leNat (bs : Bytes) : leBytes bs.length (leNat bs) = bs := by
  induction bs with
  | nil => rfl
  | cons b bs ih =>
    have hb := b.toNat_lt
    have hdiv : (b.toNat + 256 * leNat bs) / 256 = leNat bs := by omega
    have hmod : UInt8.ofNat (b.toNat + 256 * leNat bs) = b := by
      rw [← UInt8.toNat_inj, UInt8.toNat_ofNat']
      omega
    rw [List.length_cons, leNat, leBytes, hdiv, ih, hmod]

/-- The types of C that occupy a fixed number of bytes. -/
class Scalar (α : Type) where
  size : Nat
  toNat : α → Nat
  ofNat : Nat → α
  toNat_lt : ∀ a, toNat a < 256 ^ size
  ofNat_toNat : ∀ a, ofNat (toNat a) = a

/-- `sizeof(α)` -/
abbrev sizeof (α : Type) [Scalar α] : Nat := Scalar.size α

instance : Scalar UInt8 := ⟨1, UInt8.toNat, UInt8.ofNat, UInt8.toNat_lt, fun _ => UInt8.ofNat_toNat⟩
instance : Scalar UInt16 := ⟨2, UInt16.toNat, UInt16.ofNat, UInt16.toNat_lt, fun _ => UInt16.ofNat_toNat⟩
instance : Scalar UInt32 := ⟨4, UInt32.toNat, UInt32.ofNat, UInt32.toNat_lt, fun _ => UInt32.ofNat_toNat⟩
instance : Scalar UInt64 := ⟨8, UInt64.toNat, UInt64.ofNat, UInt64.toNat_lt, fun _ => UInt64.ofNat_toNat⟩

instance : Scalar Int8 where
  size := 1
  toNat a := a.toUInt8.toNat
  ofNat n := ⟨UInt8.ofNat n⟩
  toNat_lt a := a.toUInt8.toNat_lt
  ofNat_toNat a := by rw [UInt8.ofNat_toNat]

instance : Scalar Int32 where
  size := 4
  toNat a := a.toUInt32.toNat
  ofNat n := ⟨UInt32.ofNat n⟩
  toNat_lt a := a.toUInt32.toNat_lt
  ofNat_toNat a := by rw [UInt32.ofNat_toNat]

instance : Scalar Int64 where
  size := 8
  toNat a := a.toUInt64.toNat
  ofNat n := ⟨UInt64.ofNat n⟩
  toNat_lt a := a.toUInt64.toNat_lt
  ofNat_toNat a := by rw [UInt64.ofNat_toNat]

@[simp] theorem sizeof_UInt8 : sizeof UInt8 = 1 := rfl

/-- A `float`: only its bytes are ever copied. -/
structure Float4 where
  bits : UInt32
  deriving DecidableEq, Repr

instance : Scalar Float4 := ⟨4, fun a => a.bits.toNat, fun n => ⟨UInt32.ofNat n⟩, fun a => a.bits.toNat_lt, fun a => by
  rw [UInt32.ofNat_toNat]⟩

/-- A `double`, of which the same holds. -/
structure Float8 where
  bits : UInt64
  deriving DecidableEq, Repr

instance : Scalar Float8 := ⟨8, fun a => a.bits.toNat, fun n => ⟨UInt64.ofNat n⟩, fun a => a.bits.toNat_lt, fun a => by
  rw [UInt64.ofNat_toNat]⟩

/-- Bytes of a structure that no member occupies, and that are copied with it. -/
def Padding (n : Nat) : Type := { bs : Bytes // bs.length = n }

instance (n : Nat) : Scalar (Padding n) where
  size := n
  toNat p := leNat p.val
  ofNat k := ⟨leBytes n k, length_leBytes n k⟩
  toNat_lt p := by
    have h := leNat_lt p.val
    rwa [p.property] at h
  ofNat_toNat p := by
    obtain ⟨bs, rfl⟩ := p
    exact Subtype.ext (leBytes_leNat bs)

def Padding.zeros (n : Nat) : Padding n := ⟨padding n, length_padding n⟩

/-- `memcpy(it, &a, sizeof(a))` -/
def put [Scalar α] (a : α) : Bytes := leBytes (sizeof α) (Scalar.toNat a)

/-- `memcpy(&a, it, sizeof(a))` -/
def fetch (α : Type) [Scalar α] : Reader α := do
  let bs ← take (sizeof α)
  return Scalar.ofNat (leNat bs)

@[simp] theorem length_put [Scalar α] (a : α) : (put a).length = sizeof α := length_leBytes _ _

theorem put_zeros (n : Nat) : put (Padding.zeros n) = padding n := by
  have h := leBytes_leNat (padding n)
  rwa [length_padding] at h

theorem fetch_reads [Scalar α] (a : α) : Reads 0 (fetch α) (put a) a := by
  have h := (take_reads (put a)).last (f := fun bs => (Scalar.ofNat (leNat bs) : α))
  rw [length_put, put, leNat_leBytes (Scalar.toNat_lt a), Scalar.ofNat_toNat] at h
  exact h

/-! ### Enumerations -/

/-- The enumerators of an `enum`, in their order. -/
class Enumerators (α : Type) [DecidableEq α] where
  values : List α
  mem_values : ∀ a, a ∈ values
  length_lt : values.length < 4294967296

/-- An `enum` occupies four bytes. -/
def sizeofEnum : Nat := 4

section Enumerators
variable [DecidableEq α] [Enumerators α]

def putEnum (a : α) : Bytes := put (UInt32.ofNat ((Enumerators.values : List α).idxOf a))

/-- The enumerator with the number that comes next; `msg` is asserted at any other number. -/
def fetchEnum (α : Type) [DecidableEq α] [Enumerators α] (msg : String) : Reader α := do
  let n ← fetch UInt32
  match (Enumerators.values : List α)[n.toNat]? with
  | some a => return a
  | none => throw msg

@[simp] theorem length_putEnum (a : α) : (putEnum a).length = sizeofEnum := length_put _

theorem fetchEnum_reads (a : α) (msg : String) : Reads 0 (fetchEnum α msg) (putEnum a) a := by
  have hmem := Enumerators.mem_values a
  have hnum : (UInt32.ofNat ((Enumerators.values : List α).idxOf a)).toNat = (Enumerators.values : List α).idxOf a :=
    UInt32.toNat_ofNat_of_lt' (Nat.lt_trans (List.idxOf_lt_length_of_mem hmem) Enumerators.length_lt)
  have hval : Reads 0 (match (Enumerators.values : List α)[(UInt32.ofNat
      ((Enumerators.values : List α).idxOf a)).toNat]? with | some a => Pure.pure a | none => throw msg) [] a := by
    intro rest _
    rw [hnum, List.getElem?_idxOf hmem]
    rfl
  have h := (fetch_reads (UInt32.ofNat ((Enumerators.values : List α).idxOf a))).bind
    (f := fun n => match (Enumerators.values : List α)[n.toNat]? with | some a => Pure.pure a | none => throw msg)
    hval (Nat.zero_le _)
  rw [List.append_nil] at h
  exact h

end Enumerators

/-! ### Arrays with their length -/

/-- An array and its `uint32_t` length. -/
structure Counted (α : Type) where
  items : List α
  length_lt : items.length < 4294967296

namespace Counted

def len (xs : Counted α) : UInt32 := UInt32.ofNat xs.items.length

@[simp] theorem toNat_len (xs : Counted α) : xs.len.toNat = xs.items.length := UInt32.toNat_ofNat_of_lt' xs.length_lt

def empty : Counted α := ⟨[], Nat.zero_lt_succ _⟩

def map (f : α → β) (xs : Counted α) : Counted β := ⟨xs.items.map f, by rw [List.length_map]; exact xs.length_lt⟩

theorem map_eq_self {f : α → α} {xs : Counted α} : xs.map f = xs ↔ ∀ a ∈ xs.items, f a = a := by
  obtain ⟨items, hlen⟩ := xs
  have h : items.map f = items.map id ↔ ∀ a ∈ items, f a = id a := List.map_inj_left
  rw [List.map_id] at h
  rw [map, mk.injEq]
  exact h

/-- An operation on each of the items, any of which may fail -/
def mapM {ε : Type} (f : α → Except ε β) (xs : Counted α) : Except ε (Counted β) :=
  match h : xs.items.mapM f with
  | .ok ys => .ok ⟨ys, by rw [Except.length_of_mapM h]; exact xs.length_lt⟩
  | .error e => .error e

theorem mapM_eq_ok {ε : Type} {f : α → Except ε β} {xs : Counted α} {ys : Counted β} :
    xs.mapM f = .ok ys ↔ xs.items.mapM f = .ok ys.items := by
  unfold mapM
  split
  next zs h =>
    constructor
    · intro hys
      obtain rfl := Except.ok.inj hys
      exact h
    · intro hys
      obtain rfl := Except.ok.inj (h.symm.trans hys)
      rfl
  next e h => simp [h]

end Counted

/-- `n` items, one after the other -/
def times (r : Reader α) : (n : Nat) → Reader { xs : List α // xs.length = n }
  | 0 => return ⟨[], rfl⟩
  | n + 1 => do
    let a ← r
    let xs ← times r n
    return ⟨a :: xs.val, congrArg Nat.succ xs.property⟩

theorem times_reads {n m : Nat} {r : Reader α} {xs : List α} {bss : List Bytes}
    (h : List.Forall₂ (fun a bs => Reads n r bs a) xs bss) (hm : xs.length = m) :
    Reads n (times r m) bss.flatten ⟨xs, hm⟩ := by
  induction h generalizing m with
  | nil =>
    subst hm
    exact Reads.pure _
  | cons ha _ ih =>
    subst hm
    rw [List.flatten_cons]
    exact ha.bind (ih rfl).last (Nat.le_add_left _ _)

theorem times_reads_flatMap {n m : Nat} {r : Reader α} {enc : α → Bytes} {xs : List α}
    (h : ∀ a ∈ xs, Reads n r (enc a) a) (hm : xs.length = m) :
    Reads n (times r m) (xs.flatMap enc) ⟨xs, hm⟩ := by
  rw [List.flatMap_def]
  exact times_reads (List.forall₂_map_right_iff.mpr (List.forall₂_same.mpr h)) hm

/-- The array whose length was read before its items. -/
def Counted.ofTimes {len : UInt32} (xs : { xs : List α // xs.length = len.toNat }) : Counted α :=
  ⟨xs.val, by rw [xs.property]; exact len.toNat_lt⟩

theorem times_len_reads {n : Nat} {r : Reader α} {enc : α → Bytes} {xs : Counted α}
    (h : ∀ a ∈ xs.items, Reads n r (enc a) a) :
    Reads n (times r xs.len.toNat) (xs.items.flatMap enc) ⟨xs.items, xs.toNat_len.symm⟩ :=
  times_reads_flatMap h xs.toNat_len.symm

def fetchCounted (r : Reader α) : Reader (Counted α) := do
  let len ← fetch UInt32
  let xs ← times r len.toNat
  return .ofTimes xs

theorem fetchCounted_reads {n : Nat} {r : Reader α} {enc : α → Bytes} {xs : Counted α}
    (h : ∀ a ∈ xs.items, Reads n r (enc a) a) :
    Reads n (fetchCounted r) (put xs.len ++ xs.items.flatMap enc) xs :=
  (fetch_reads xs.len).andThen (times_len_reads h).last

@[simp] theorem length_flatMap_put [Scalar α] (xs : List α) : (xs.flatMap put).length = xs.length * sizeof α := by
  simp [List.length_flatMap, List.map_const']

/-! ### Allocations -/

/-- What `calloc` of some items does in front of the bytes that are left, of which every item takes as many. -/
abbrev Calloc := Nat → Nat → Reader Unit

def granted : Calloc := fun _ _ => return ()

/-- As many items are granted as the bytes that are left can hold, and more of them are refused. -/
def held (refusal : String) : Calloc := fun n size it => if n * size ≤ it.length then .ok ((), it) else .error refusal

/-- `len` items, one after the other, into an array that is allocated for them if there are any. -/
def allocated (calloc : Calloc) (size : Nat) (r : Reader α) (len : UInt32) :
    Reader { xs : List α // xs.length = len.toNat } := do
  if 0 < len then calloc len.toNat size
  times r len.toNat

@[simp] theorem allocated_granted (size : Nat) (r : Reader α) (len : UInt32) :
    allocated granted size r len = times r len.toNat := by
  unfold allocated
  split <;> rfl

def fetchAllocated (calloc : Calloc) (size : Nat) (r : Reader α) : Reader (Counted α) := do
  let len ← fetch UInt32
  let xs ← allocated calloc size r len
  return .ofTimes xs

@[simp] theorem fetchAllocated_granted (size : Nat) (r : Reader α) :
    fetchAllocated granted size r = fetchCounted r := by
  simp only [fetchAllocated, allocated_granted, fetchCounted]

/-! ### Whole chunks -/

/-- A decoding reads its whole buffer. -/
def Reader.whole (r : Reader α) (msg : String) (buf : Bytes) : Except String α := do
  let (a, rest) ← r buf
  require (rest = []) msg
  return a

theorem Reads.whole {r : Reader α} {bs : Bytes} {a : α} (h : Reads 0 r bs a) (msg : String) :
    Reader.whole r msg bs = .ok a := by
  have hr := h [] (Nat.zero_le _)
  rw [List.append_nil] at hr
  rw [Reader.whole, hr]
  rfl

/-! ### Structures of four bytes

Headers, control messages and outcomes have one member. -/

def encWord (a : UInt32) : Bytes := put a

/-- `memcpy(&ret, buf, len)`, after the assertion on `len`. -/
def decWord (msg : String) (buf : Bytes) : Except String UInt32 := do
  require (buf.length = sizeof UInt32) msg
  let (a, _) ← fetch UInt32 buf
  return a

/-- The same for an outcome, of which there has to be something. -/
def decOutcome (msg : String) (buf : Bytes) : Except String UInt32 := do
  require (0 < buf.length) "len > 0"
  decWord msg buf

/-- `memcpy(&ev.ms, ev_tr, sizeof(ev.ms))`, whatever the length is. -/
def decTrigger (evTr : Bytes) : Except String UInt32 := do
  let (ms, _) ← fetch UInt32 evTr
  return ms

/-! ### Writing into a chunk -/

/-- `memcpy` of `bs` to the end of what is written of a chunk of `len` bytes. -/
def write (len : Nat) (ptr bs : Bytes) : Except String Bytes := do
  require (ptr.length + bs.length ≤ len) "written past the end of the chunk"
  return ptr ++ bs

theorem write_eq_ok {len : Nat} {ptr bs ptr' : Bytes} :
    write len ptr bs = .ok ptr' ↔ (ptr ++ bs).length ≤ len ∧ ptr ++ bs = ptr' := by
  unfold write
  rw [Except.bind_eq_ok]
  simp only [require_eq_ok, List.length_append, Except.pure_eq, Except.ok.injEq]
  constructor
  · rintro ⟨_, h⟩
    exact h
  · intro h
    exact ⟨(), h⟩

theorem foldlM_write_eq_ok {len : Nat} {enc : α → Bytes} {as : List α} {ptr ptr' : Bytes}
    (hlen : ptr.length ≤ len) :
    as.foldlM (fun ptr a => write len ptr (enc a)) ptr = .ok ptr' ↔
      (ptr ++ as.flatMap enc).length ≤ len ∧ ptr ++ as.flatMap enc = ptr' := by
  induction as generalizing ptr with
  | nil => simp [hlen]
  | cons a as ih =>
    rw [List.foldlM_cons, Except.bind_eq_ok, List.flatMap_cons, ← List.append_assoc]
    constructor
    · rintro ⟨mid, hw, h⟩
      obtain ⟨hroom, rfl⟩ := write_eq_ok.mp hw
      exact (ih hroom).mp h
    · rintro ⟨hroom, h⟩
      have hmid : (ptr ++ enc a).length ≤ len := by
        rw [List.length_append] at hroom
        omega
      exact ⟨_, write_eq_ok.mpr ⟨hmid, rfl⟩, (ih hmid).mpr ⟨hroom, h⟩⟩

/-! ### Size, bytes and reader -/

/-- `sz` bytes are written, and the reader makes `a` of them. -/
structure Fits (sz : Nat) (bs : Bytes) (r : Reader α) (a : α) : Prop where
  length : bs.length = sz
  reads : Reads 0 r bs a

section Fits
variable {sz sz' : Nat} {bs bs' : Bytes} {r : Reader α} {a : α} {b : β}

theorem Fits.of_eq (h : Fits sz bs r a) (hsz : sz = sz') (hbs : bs = bs') : Fits sz' bs' r a := by
  subst hsz hbs
  exact h

theorem Fits.andThen {f : α → Reader β} (hr : Fits sz bs r a) (hf : Fits sz' bs' (f a) b) :
    Fits (sz + sz') (bs ++ bs') (r >>= f) b where
  length := by rw [List.length_append, hr.length, hf.length]
  reads := hr.reads.andThen hf.reads

theorem Fits.last {f : α → β} (hr : Fits sz bs r a) : Fits sz bs (r >>= fun a => Pure.pure (f a)) (f a) :=
  ⟨hr.length, hr.reads.last⟩

theorem fetch_fits [Scalar α] (a : α) : Fits (sizeof α) (put a) (fetch α) a := ⟨length_put a, fetch_reads a⟩

theorem fetchEnum_fits [DecidableEq α] [Enumerators α] (a : α) (msg : String) :
    Fits sizeofEnum (putEnum a) (fetchEnum α msg) a :=
  ⟨length_putEnum a, fetchEnum_reads a msg⟩

theorem fetchCounted_fits [Scalar α] (xs : Counted α) :
    Fits (sizeof UInt32 + xs.items.length * sizeof α) (put xs.len ++ xs.items.flatMap put) (fetchCounted (fetch α)) xs :=
  ⟨by simp, fetchCounted_reads fun a _ => fetch_reads a⟩

end Fits

/-- The size that is computed for a value, the bytes that are written for it and what the reader makes of them
agree with one another. -/
def Carries (cal : Except String Nat) (fill : Except String Bytes) (r : Reader α) (a : α) : Prop :=
  ∃ bs, cal = .ok bs.length ∧ fill = .ok bs ∧ Reads 0 r bs a

theorem Reads.carries {r : Reader α} {bs : Bytes} {a : α} {sz : Nat} (h : Reads 0 r bs a) (hsz : sz = bs.length) :
    Carries (.ok sz) (.ok bs) r a :=
  ⟨bs, congrArg _ hsz, rfl, h⟩

theorem Carries.all {cal : α → Except String Nat} {fill : α → Except String Bytes} {r : Reader α} {xs : List α}
    (h : ∀ a ∈ xs, Carries (cal a) (fill a) r a) :
    ∃ bss, xs.mapM cal = .ok (bss.map List.length) ∧ xs.mapM fill = .ok bss ∧
      List.Forall₂ (fun a bs => Reads 0 r bs a) xs bss := by
  induction xs with
  | nil => exact ⟨[], rfl, rfl, .nil⟩
  | cons a xs ih =>
    obtain ⟨ha, hxs⟩ := List.forall_mem_cons.mp h
    obtain ⟨bs, hcal, hfill, hr⟩ := ha
    obtain ⟨bss, hcals, hfills, hrs⟩ := ih hxs
    refine ⟨bs :: bss, ?_, ?_, .cons hr hrs⟩
    · rw [List.mapM_cons, hcal, hcals]
      rfl
    · rw [List.mapM_cons, hfill, hfills]
      rfl

end FlexRic.Plain
