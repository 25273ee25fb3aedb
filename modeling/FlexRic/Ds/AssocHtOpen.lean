import FlexRic.Lib.CInt
import FlexRic.Lib.Probing
import FlexRic.Lib.System

/-! # The hash table of `assoc_ht_open_address.c`

Open addressing with linear probing. A slot that was used once stays dirty, also when its entry is removed, until the
table is hashed anew; that happens before an insertion or a removal, when more than half of the slots are dirty or
less than a quarter have an entry. -/

namespace FlexRic.Ds

/-! ### `murmur_hash_32.c` -/

/-- `murmur_32_scramble` -/
def murmur32Scramble (k : UInt32) : UInt32 :=
  let k := k * 0xcc9e2d51
  let k := k <<< 15 ||| k >>> 17
  k * 0x1b873593

/-- Bytes as a number, the lowest one first. -/
def word (bytes : List UInt8) : UInt32 := bytes.foldr (fun b k => k <<< 8 ||| b.toUInt32) 0

/-- The loop over the groups of four bytes, and the bytes that are left. -/
def murmurGroups : UInt32 → List UInt8 → UInt32 × List UInt8
  | h, a :: b :: c :: d :: rest =>
    let h := h ^^^ murmur32Scramble (word [a, b, c, d])
    let h := h <<< 13 ||| h >>> 19
    murmurGroups (h * 5 + 0xe6546b64) rest
  | h, rest => (h, rest)

/-- `murmur3_32` -/
def murmur3_32 (key : List UInt8) (seed : UInt32) : UInt32 :=
  let (h, rest) := murmurGroups seed key
  let h := h ^^^ murmur32Scramble (word rest)
  let h := h ^^^ UInt32.ofNat key.length
  let h := h ^^^ h >>> 16
  let h := h * 0x85ebca6b
  let h := h ^^^ h >>> 13
  let h := h * 0xc2b2ae35
  h ^^^ h >>> 16

/-- What a table is made for: keys of at least four bytes, an equality that sees the first four of them, and a hash of
those. -/
structure HtKeys where
  keySz : Nat
  keyEq : { bytes : List UInt8 // bytes.length = keySz } → { bytes : List UInt8 // bytes.length = keySz } → Bool
  murmur3 : List UInt8 → UInt32
  four_le : 4 ≤ keySz
  refl : ∀ a, keyEq a a = true
  symm : ∀ a b, keyEq a b = true → keyEq b a = true
  trans : ∀ a b c, keyEq a b = true → keyEq b c = true → keyEq a c = true
  alike : ∀ a b, keyEq a b = true → a.1.take 4 = b.1.take 4

namespace HtKeys
variable (K : HtKeys)

/-- The bytes of a key. -/
abbrev Key := { bytes : List UInt8 // bytes.length = K.keySz }

/-- `hash_func`: the hash of `sizeof(uint32_t)` bytes -/
def hashFunc (key : K.Key) : Nat := (K.murmur3 (key.1.take 4)).toNat

end HtKeys

/-- `hentry_t`; the key and the value are not there before the slot is used, and after they are freed. -/
structure HEntry (K : HtKeys) (β : Type) where
  kv : Option (K.Key × β)
  hash : Nat
  isDirty : Bool
  hasValue : Bool

/-- `assoc_ht_open_t` -/
structure AssocHtOpen (K : HtKeys) (β : Type) where
  arr : List (HEntry K β)
  sz : Nat
  cap : Nat
  numDirty : Nat

namespace AssocHtOpen
variable {K : HtKeys} {β : Type}

/-- `MIN_SIZE_HT` -/
def minSizeHt : Nat := 16

/-- A slot of an array that `calloc` gives. -/
def zeroed : HEntry K β := ⟨none, 0, false, false⟩

/-- The entry at the index, which the array must have. -/
def entryAt (arr : List (HEntry K β)) (idx : Nat) : Except String (HEntry K β) :=
  match arr[idx]? with
  | some e => .ok e
  | none => .error "no slot in the array"

/-- `entry->kv.key` and `entry->kv.value`, which must be there. -/
def kvOf (e : HEntry K β) : Except String (K.Key × β) :=
  match e.kv with
  | some kv => .ok kv
  | none => .error "no key"

/-- `entry->has_value == true && htab->key_eq(key, entry->kv.key) == true` -/
def holdsKey (e : HEntry K β) (key : K.Key) : Except String Bool :=
  if e.hasValue = true then do
    let kv ← kvOf e
    return K.keyEq key kv.1
  else return false

def impossible : String := "Impossible code path. There must be a free entry."

/-- `hash % htab->cap` -/
def startIdx (hash cap : Nat) : Except String Nat :=
  if cap = 0 then .error "division by zero" else .ok (hash % cap)

/-- `find_idx` -/
def findIdx (arr : List (HEntry K β)) (cap : Nat) (key : K.Key) (hash : Nat) : Except String Nat := do
  let start ← startIdx hash cap
  Probing.probe (fun idx => do
    let entry ← entryAt arr idx
    if entry.isDirty = false then return some idx
    let holds ← holdsKey entry key
    return if holds then some idx else none) impossible cap start cap start

/-- The body of the loop of `rehash_table`. -/
def rehashEntry (t : AssocHtOpen K β) (old : HEntry K β) : Except String (AssocHtOpen K β) :=
  if old.hasValue = true then do
    require (old.isDirty = true) "old_htab.arr[idx_old].is_dirty == true"
    let kv ← kvOf old
    let idxNew ← findIdx t.arr t.cap kv.1 old.hash
    return { t with arr := t.arr.set idxNew old, numDirty := uint32 (t.numDirty + 1) }
  else return t

/-- `rehash_table` -/
def rehashTable (t : AssocHtOpen K β) (cap : Nat) : Except String (AssocHtOpen K β) :=
  t.arr.foldlM rehashEntry ⟨List.replicate cap zeroed, t.sz, cap, 0⟩

/-- `expand_or_shrink_if_neccesary` -/
def expandOrShrinkIfNeccesary (t : AssocHtOpen K β) : Except String (AssocHtOpen K β) := do
  let t ←
    if uint32 (t.numDirty * 2) > t.cap then rehashTable t (uint32 (t.cap * 2))
    else if uint32 (t.sz * 4) < t.cap ∧ t.cap > minSizeHt then rehashTable t (t.cap / 2)
    else pure t
  require (uint32 (t.sz * 2) ≤ t.cap) "htab->sz * 2 <= htab->cap"
  require (uint32 (t.numDirty * 2) ≤ t.cap) "htab->num_dirty * 2 <= htab->cap"
  return t

/-- `assoc_ht_open_init` -/
def init : AssocHtOpen K β := ⟨List.replicate minSizeHt zeroed, 0, minSizeHt, 0⟩

/-- `assoc_ht_open_insert` -/
def insert (t : AssocHtOpen K β) (key : K.Key) (value : β) : Except String (AssocHtOpen K β) := do
  let t ← t.expandOrShrinkIfNeccesary
  require (uint32 (t.numDirty * 2) ≤ t.cap) "htab->num_dirty * 2 <= htab->cap"
  let hash := K.hashFunc key
  let idx ← findIdx t.arr t.cap key hash
  require (idx < t.cap) "idx < htab->cap"
  let entry ← entryAt t.arr idx
  let numDirty := if entry.isDirty = false then uint32 (t.numDirty + 1) else t.numDirty
  if entry.hasValue = true then do
    require (entry.isDirty = true) "entry->is_dirty == true"
    let kv ← kvOf entry
    require (K.keyEq key kv.1 = true) "Different keys?"
    return { t with arr := t.arr.set idx ⟨some (kv.1, value), hash, true, true⟩, numDirty }
  else
    return { t with arr := t.arr.set idx ⟨some (key, value), hash, true, true⟩, sz := uint32 (t.sz + 1), numDirty }

/-- `find_entry`: the index of the entry, when there is one -/
def findEntry (t : AssocHtOpen K β) (key : K.Key) : Except String (Option Nat) := do
  let start ← startIdx (K.hashFunc key) t.cap
  Probing.probe (fun idx => do
    let entry ← entryAt t.arr idx
    if entry.isDirty = false then do
      require (entry.hasValue = false) "entry->has_value == false"
      return some none
    let holds ← holdsKey entry key
    return if holds then some (some idx) else none) impossible t.cap start t.cap start

/-- `remove_value_htab` -/
def removeValueHtab (t : AssocHtOpen K β) (key : K.Key) : Except String (AssocHtOpen K β) := do
  let t ← t.expandOrShrinkIfNeccesary
  require (uint32 (t.numDirty * 2) ≤ t.cap) "htab->num_dirty * 2 <= htab->cap"
  match ← t.findEntry key with
  | none => return t
  | some idx =>
    let entry ← entryAt t.arr idx
    require (entry.isDirty = true ∧ entry.hasValue = true) "entry->is_dirty == true && entry->has_value == true"
    return { t with
      arr := t.arr.set idx { entry with kv := none, hasValue := false }
      sz := uint32 (t.sz + 4294967295) }

/-- `assoc_ht_open_value` -/
def value (t : AssocHtOpen K β) (key : K.Key) : Except String (Option β) := do
  match ← t.findEntry key with
  | none => return none
  | some idx =>
    let entry ← entryAt t.arr idx
    let kv ← kvOf entry
    return some kv.2

/-- `assoc_ht_open_size` -/
def size (t : AssocHtOpen K β) : Nat := t.sz

/-! ### The operations that a table sees -/

inductive Op (K : HtKeys) (β : Type)
  /-- `assoc_ht_open_insert` -/
  | insert (key : K.Key) (value : β)
  /-- `remove_value_htab` -/
  | remove (key : K.Key)

/-- `uint32_t` keys, with their equality and the hash that `hash_func` takes. -/
def intKeys : HtKeys where
  keySz := 4
  keyEq a b := a.1 == b.1
  murmur3 bytes := murmur3_32 bytes 42
  four_le := Nat.le_refl 4
  refl a := beq_self_eq_true a.1
  symm a b h := by rw [beq_iff_eq] at h ⊢; exact h.symm
  trans a b c h h' := by rw [beq_iff_eq] at h h' ⊢; exact h.trans h'
  alike a b h := by rw [beq_iff_eq.mp h]

/-- The bytes of the number. -/
def intKey (n : Nat) : intKeys.Key :=
  ⟨[UInt8.ofNat n, UInt8.ofNat (n / 256), UInt8.ofNat (n / 65536), UInt8.ofNat (n / 16777216)], rfl⟩

/-- A table, and the operations on it, the last one first. -/
structure Traced (K : HtKeys) (β : Type) where
  table : AssocHtOpen K β
  history : List (Op K β)

def apply (t : AssocHtOpen K β) : Op K β → Except String (AssocHtOpen K β)
  | .insert key value => t.insert key value
  | .remove key => t.removeValueHtab key

def Traced.step (s : Traced K β) (op : Op K β) : Outcome (Traced K β) := do
  let t ← .ofExcept (s.table.apply op)
  return ⟨t, op :: s.history⟩

/-- The value of the last insertion of the key that no removal of it follows. -/
def lastInsert : List (Op K β) → K.Key → Option β
  | [], _ => none
  | .insert k v :: ops, key => if K.keyEq key k = true then some v else lastInsert ops key
  | .remove k :: ops, key => if K.keyEq key k = true then none else lastInsert ops key

/-- The keys with a value, each one as it was inserted first. -/
def keysOf : List (Op K β) → List K.Key
  | [] => []
  | .insert k _ :: ops => if (lastInsert ops k).isSome then keysOf ops else k :: keysOf ops
  | .remove k :: ops => (keysOf ops).filter fun k' => !K.keyEq k k'

end AssocHtOpen

/-- A table from its initialisation on. -/
def assocHtOpen (K : HtKeys) (β : Type) : System (AssocHtOpen.Traced K β) (AssocHtOpen.Op K β) :=
  ⟨⟨.init, []⟩, AssocHtOpen.Traced.step⟩

end FlexRic.Ds
