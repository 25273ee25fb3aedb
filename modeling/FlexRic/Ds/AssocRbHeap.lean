import FlexRic.Ds.AssocRbTree
import FlexRic.Lib.Memory

/-! # The nodes of `assoc_rb_tree.c` in memory

The operations as the source writes them, on nodes with pointers to their parents and children. A read or a
write at an address where no node is allocated, `NULL` among them, fails. The two halves of a loop body mirror
each other and are one definition, for the side they are about. -/

namespace FlexRic.Ds

/-- `assoc_node_t`; `tree->dummy` has neither key nor value. -/
@[ext] structure AssocNode (κ ν : Type) where
  key : Option κ
  value : Option ν
  parent : Ptr
  left : Ptr
  right : Ptr
  color : AssocColor
  deriving Repr

namespace AssocNode
variable {κ ν : Type}

def child : Side → AssocNode κ ν → Ptr
  | .left => left
  | .right => right

def setChild : Side → Ptr → AssocNode κ ν → AssocNode κ ν
  | .left, p, n => { n with left := p }
  | .right, p, n => { n with right := p }

end AssocNode

/-- `assoc_rb_tree_t`, with the nodes that are allocated. -/
structure AssocRbHeap (κ ν : Type) where
  node : Memory (AssocNode κ ν)
  dummy : Ptr
  root : Ptr
  size : Nat

namespace AssocRbHeap
variable {κ ν : Type}

/-- `assoc_rb_tree_init`, the dummy being allocated at `dummy` -/
def init (dummy : Ptr) : AssocRbHeap κ ν where
  node := Memory.write (fun _ => none) dummy ⟨none, none, 0, 0, 0, .black⟩
  dummy
  root := dummy
  size := 0

/-! ### Reads and writes -/

/-- The node that `n` points to. -/
def read (n : Ptr) : Prog (AssocRbHeap κ ν) (AssocNode κ ν) := fun s =>
  match s.node n with
  | some a => .ok (a, s)
  | none => .error "invalid pointer"

def modify (n : Ptr) (f : AssocNode κ ν → AssocNode κ ν) : Prog (AssocRbHeap κ ν) PUnit := fun s =>
  match s.node n with
  | some a => .ok (⟨⟩, { s with node := s.node.write n (f a) })
  | none => .error "invalid pointer"

def parent (n : Ptr) : Prog (AssocRbHeap κ ν) Ptr := return (← read n).parent
def child (side : Side) (n : Ptr) : Prog (AssocRbHeap κ ν) Ptr := return (← read n).child side
def color (n : Ptr) : Prog (AssocRbHeap κ ν) AssocColor := return (← read n).color
def dummyPtr : Prog (AssocRbHeap κ ν) Ptr := fun s => .ok (s.dummy, s)
def rootPtr : Prog (AssocRbHeap κ ν) Ptr := fun s => .ok (s.root, s)

def setParent (n p : Ptr) : Prog (AssocRbHeap κ ν) PUnit := modify n fun a => { a with parent := p }
def setChild (side : Side) (n p : Ptr) : Prog (AssocRbHeap κ ν) PUnit := modify n (.setChild side p)
def setColor (n : Ptr) (c : AssocColor) : Prog (AssocRbHeap κ ν) PUnit := modify n fun a => { a with color := c }
def setRoot (p : Ptr) : Prog (AssocRbHeap κ ν) PUnit := fun s => .ok (⟨⟩, { s with root := p })

/-- A pointer to a key; the dummy's is `NULL`. -/
def key (n : Ptr) : Prog (AssocRbHeap κ ν) κ := fun s =>
  match s.node n with
  | some ⟨some k, _, _, _, _, _⟩ => .ok (k, s)
  | _ => .error "invalid pointer"

/-! ### Rotations -/

/-- What points to `u` points to `v` instead: the root, or the parent `p` of `u`. -/
def relink (p u v : Ptr) : Prog (AssocRbHeap κ ν) PUnit := do
  if p = (← dummyPtr) then setRoot v
  else if u = (← child .left p) then setChild .left p v
  else setChild .right p v

/-- `x` becomes the parent of `b`, unless that is the dummy. -/
def adopt (b x : Ptr) : Prog (AssocRbHeap κ ν) PUnit := do
  if b ≠ (← dummyPtr) then setParent b x
  else return

/-- `left_rotate` and `right_rotate` -/
def rotate (side : Side) (x : Ptr) : Prog (AssocRbHeap κ ν) PUnit := do
  Prog.assert ((← child side.other x) ≠ (← dummyPtr)) "x_node->right != tree->dummy"
  let y ← child side.other x
  setChild side.other x (← child side y)
  adopt (← child side y) x
  setParent y (← parent x)
  relink (← parent x) x y
  setChild side y x
  setParent x y

/-! ### Insertion -/

/-- Case 2 of `insert_fixup`: `z_node` and `parent` after it -/
def straighten (side : Side) (z parent : Ptr) : Prog (AssocRbHeap κ ν) (Ptr × Ptr) := do
  if z = (← child side.other parent) then
    rotate side parent
    return (parent, ← AssocRbHeap.parent parent)
  else return (z, parent)

/-- The body of the loop of `insert_fixup`, where `parent` is the child of `grand` on the side: the next
`z_node` -/
def insertFixupBody (side : Side) (z parent grand : Ptr) : Prog (AssocRbHeap κ ν) Ptr := do
  let uncle ← child side.other grand
  if (← color uncle) = .red then
    setColor parent .black
    setColor uncle .black
    setColor grand .red
    return grand
  else
    let (z, parent) ← straighten side z parent
    setColor parent .black
    setColor grand .red
    rotate side.other grand
    return z

/-- `insert_fixup`. The number bounds how often the loop runs. -/
def insertFixup : Nat → Ptr → Prog (AssocRbHeap κ ν) PUnit
  | 0, _ => throw "bound of the loop"
  | n + 1, z => do
    let p ← parent z
    if (← color p) = .red then
      let g ← parent p
      if p = (← child .left g) then insertFixup n (← insertFixupBody .left z p g)
      else insertFixup n (← insertFixupBody .right z p g)
    else setColor (← rootPtr) .black

variable (cmp : κ → κ → Int)

/-- The loop of `assoc_rb_tree_insert` that finds the leaf: `y_node` after it, `y` being the parent of `x` -/
def findLeaf (z : Ptr) : Nat → Ptr → Ptr → Prog (AssocRbHeap κ ν) Ptr
  | 0, _, _ => throw "bound of the loop"
  | n + 1, x, y => do
    if x ≠ (← dummyPtr) then
      if cmp (← key z) (← key x) = 1 then findLeaf z n (← child .left x) x
      else findLeaf z n (← child .right x) x
    else return y

/-- `create_node_rb_tree`, the node being allocated at `z` -/
def createNodeRbTree (z : Ptr) (key : κ) (value : ν) : Prog (AssocRbHeap κ ν) PUnit := fun s =>
  .ok (⟨⟩, { s with node := s.node.write z ⟨some key, some value, s.dummy, s.dummy, s.dummy, .red⟩ })

def incrSize : Prog (AssocRbHeap κ ν) PUnit := fun s => .ok (⟨⟩, { s with size := s.size + 1 })

/-- The new node `z` becomes a child of `y`, or the root. -/
def link (z y : Ptr) : Prog (AssocRbHeap κ ν) PUnit := do
  setParent z y
  if y = (← dummyPtr) then setRoot z
  else if cmp (← key z) (← key y) = 1 then setChild .left y z
  else setChild .right y z

/-- `assoc_rb_tree_insert`, the node being allocated at `z` -/
def insert (z : Ptr) (k : κ) (value : ν) : Prog (AssocRbHeap κ ν) PUnit := fun s => (do
  createNodeRbTree z k value
  Prog.assert (z ≠ s.dummy) "z_node != tree->dummy"
  Prog.assert ((← parent z) = s.dummy) "z_node->parent == tree->dummy"
  Prog.assert ((← child .left z) = s.dummy) "z_node->left == tree->dummy"
  Prog.assert ((← child .right z) = s.dummy) "z_node->right == tree->dummy"
  Prog.assert ((← color z) = .red) "z_node->color == ASSOC_RED"
  let y ← findLeaf cmp z (s.size + 1) s.root s.dummy
  link cmp z y
  insertFixup (s.size + 2) z
  incrSize : Prog (AssocRbHeap κ ν) PUnit) s

/-! ### Extraction -/

/-- Case 1 of `delete_fixup`: `w_node` after it -/
def lowerParent (side : Side) (x w : Ptr) : Prog (AssocRbHeap κ ν) Ptr := do
  if (← color w) = .red then
    setColor w .black
    setColor (← parent x) .red
    rotate side (← parent x)
    child side.other (← parent x)
  else return w

/-- Case 3 of `delete_fixup`: `w_node` after it -/
def turnSibling (side : Side) (x w : Ptr) : Prog (AssocRbHeap κ ν) Ptr := do
  if (← color (← child side.other w)) = .black then
    Prog.assert ((← color w) = .black) "w_node->color == ASSOC_BLACK"
    Prog.assert ((← color (← child side w)) = .red) "w_node->left->color == ASSOC_RED"
    setColor (← child side w) .black
    setColor w .red
    rotate side.other w
    child side.other (← parent x)
  else return w

/-- Case 4 of `delete_fixup`: `x_node` after it -/
def raiseSibling (side : Side) (x w : Ptr) : Prog (AssocRbHeap κ ν) Ptr := do
  Prog.assert ((← color w) = .black) "w_node->color == ASSOC_BLACK"
  Prog.assert ((← color (← child side.other w)) = .red) "w_node->right->color == ASSOC_RED"
  setColor w (← color (← parent x))
  setColor (← parent x) .black
  setColor (← child side.other w) .black
  rotate side (← parent x)
  rootPtr

/-- Cases 2 to 4 of `delete_fixup`: the next `x_node` -/
def fixBlackSibling (side : Side) (x w : Ptr) : Prog (AssocRbHeap κ ν) Ptr := do
  Prog.assert ((← color w) = .black) "w_node->color == ASSOC_BLACK"
  if (← color (← child .left w)) = .black ∧ (← color (← child .right w)) = .black then
    setColor w .red
    parent x
  else raiseSibling side x (← turnSibling side x w)

/-- The body of the loop of `delete_fixup`, where `x` is the child of its parent on the side: the next
`x_node` -/
def deleteFixupBody (side : Side) (x : Ptr) : Prog (AssocRbHeap κ ν) Ptr := do
  let w ← child side.other (← parent x)
  fixBlackSibling side x (← lowerParent side x w)

/-- `delete_fixup`. The number bounds how often the loop runs. -/
def deleteFixup : Nat → Ptr → Prog (AssocRbHeap κ ν) PUnit
  | 0, _ => throw "bound of the loop"
  | n + 1, x => do
    if x ≠ (← rootPtr) ∧ (← color x) = .black then
      if x = (← child .left (← parent x)) then deleteFixup n (← deleteFixupBody .left x)
      else deleteFixup n (← deleteFixupBody .right x)
    else setColor x .black

/-- `transplant` -/
def transplant (u v : Ptr) : Prog (AssocRbHeap κ ν) PUnit := do
  Prog.assert (u ≠ (← dummyPtr)) "u_node != tree->dummy"
  relink (← parent u) u v
  setParent v (← parent u)

/-- The loop of `minimum`. The number bounds how often it runs. -/
def leftmost : Nat → Ptr → Prog (AssocRbHeap κ ν) Ptr
  | 0, _ => throw "bound of the loop"
  | n + 1, x => do
    if (← child .left x) ≠ (← dummyPtr) then leftmost n (← child .left x)
    else return x

/-- `minimum` -/
def minimum (bound : Nat) (x : Ptr) : Prog (AssocRbHeap κ ν) Ptr := do
  if x = (← dummyPtr) then dummyPtr
  else leftmost bound x

/-- `find_rb_tree`. The number bounds how often the loop runs. -/
def findRbTree (key : κ) : Nat → Ptr → Prog (AssocRbHeap κ ν) Ptr
  | 0, _ => throw "bound of the loop"
  | n + 1, x => do
    if x ≠ (← dummyPtr) then
      let rc := cmp key (← AssocRbHeap.key x)
      if rc = 1 then findRbTree key n (← child .left x)
      else if rc = -1 then findRbTree key n (← child .right x)
      else
        Prog.assert (rc = 0) "rc == 0"
        return x
    else return x

/-- `free_node_rb_tree` -/
def freeNodeRbTree (n : Ptr) : Prog (AssocRbHeap κ ν) PUnit := do
  let _ ← read n
  fun s => .ok (⟨⟩, { s with node := s.node.free n })

/-- The successor `y` of `z` leaves its place, where `x` stays. -/
def detachSuccessor (z y x : Ptr) : Prog (AssocRbHeap κ ν) PUnit := do
  if (← parent y) = z then setParent x y
  else
    transplant y (← child .right y)
    setChild .right y (← child .right z)
    setParent (← child .right y) y

/-- `y` gets the left child and the colour of `z`. -/
def takeOver (z y : Ptr) : Prog (AssocRbHeap κ ν) PUnit := do
  setChild .left y (← child .left z)
  setParent (← child .left y) y
  setColor y (← color z)

/-- The branch of `assoc_rb_tree_extract` for a node `z` with two children: `original_color` and `x_node` -/
def replaceBySuccessor (bound : Nat) (z : Ptr) : Prog (AssocRbHeap κ ν) (AssocColor × Ptr) := do
  let y ← minimum bound (← child .right z)
  let original ← color y
  let x ← child .right y
  detachSuccessor z y x
  transplant z y
  takeOver z y
  return (original, x)

/-- The branches of `assoc_rb_tree_extract`: `original_color` and `x_node` -/
def unlink (bound : Nat) (z : Ptr) : Prog (AssocRbHeap κ ν) (AssocColor × Ptr) := do
  let d ← dummyPtr
  let original ← color z
  if (← child .left z) = d then
    let x ← child .right z
    transplant z (← child .right z)
    return (original, x)
  else if (← child .right z) = d then
    let x ← child .left z
    transplant z (← child .left z)
    return (original, x)
  else replaceBySuccessor bound z

def value (n : Ptr) : Prog (AssocRbHeap κ ν) ν := fun s =>
  match s.node n with
  | some ⟨_, some v, _, _, _, _⟩ => .ok (v, s)
  | _ => .error "invalid pointer"

/-- The fix-up is for the removal of a black node. -/
def fixupFor (original : AssocColor) (bound : Nat) (x : Ptr) : Prog (AssocRbHeap κ ν) PUnit :=
  if original = .black then deleteFixup bound x else return

def decrSize : Prog (AssocRbHeap κ ν) PUnit := fun s =>
  if s.size = 0 then .error "tree->size != 0" else .ok (⟨⟩, { s with size := s.size - 1 })

/-- `assoc_rb_tree_extract` -/
def extract (key : κ) : Prog (AssocRbHeap κ ν) ν := fun s => (do
  let z ← findRbTree cmp key (s.size + 1) s.root
  Prog.assert (z ≠ s.dummy) "Trying to extract a key not found in the tree"
  let (original, x) ← unlink (s.size + 1) z
  let v ← value z
  freeNodeRbTree z
  fixupFor original (s.size + 1) x
  decrSize
  return v : Prog (AssocRbHeap κ ν) ν) s

/-! ### Iterators

An iterator is a pointer to a node; the end is the dummy. -/

/-- `assoc_rb_tree_front` -/
def front (bound : Nat) : Prog (AssocRbHeap κ ν) Ptr := do minimum bound (← rootPtr)

/-- The loop of `assoc_rb_tree_next` that goes up: `p` after it. The number bounds how often it runs. -/
def climb : Nat → Ptr → Ptr → Prog (AssocRbHeap κ ν) Ptr
  | 0, _, _ => throw "bound of the loop"
  | n + 1, node, p => do
    if p = (← dummyPtr) then return p
    else if (← child .left p) ≠ node then climb n p (← parent p)
    else return p

/-- `assoc_rb_tree_next` -/
def next (bound : Nat) (node : Ptr) : Prog (AssocRbHeap κ ν) Ptr := do
  Prog.assert (node ≠ (← dummyPtr)) "No next node since the end reached"
  if (← child .right node) ≠ (← dummyPtr) then minimum bound (← child .right node)
  else climb bound node (← parent node)

/-- `assoc_rb_tree_end` -/
def end_ : Prog (AssocRbHeap κ ν) Ptr := dummyPtr

/-- A loop from the iterator to the end, and what it sees: each iterator with its key and value. The number bounds how
often the loop runs. -/
def traverse (bound : Nat) : Nat → Ptr → Prog (AssocRbHeap κ ν) (List (Ptr × κ × ν))
  | 0, _ => throw "bound of the loop"
  | n + 1, it => do
    if it ≠ (← end_) then
      let k ← key it
      let v ← value it
      let seen ← traverse bound n (← next bound it)
      return (it, k, v) :: seen
    else return []

/-- The loop over all iterators. -/
def iterate (bound : Nat) : Prog (AssocRbHeap κ ν) (List (Ptr × κ × ν)) := do traverse bound bound (← front bound)

/-- The loop of `find_if_rb_tree` -/
def findIfFrom (f : κ → Bool) (bound : Nat) : Nat → Ptr → Prog (AssocRbHeap κ ν) Ptr
  | 0, _ => throw "bound of the loop"
  | n + 1, it => do
    if it ≠ (← end_) then
      if f (← key it) then return it
      else findIfFrom f bound n (← next bound it)
    else return it

/-- `find_if_rb_tree` over all iterators, for the keys that `f` finds equal to the value -/
def findIf (f : κ → Bool) (bound : Nat) : Prog (AssocRbHeap κ ν) Ptr := do findIfFrom f bound bound (← front bound)

/-- `depth_first_search_free`: what it gives to the function that frees keys and values. The number bounds its
depth. -/
def depthFirstSearchFree : Nat → Ptr → Prog (AssocRbHeap κ ν) (List (κ × ν))
  | 0, _ => throw "bound of the recursion"
  | n + 1, node => do
    if node ≠ (← dummyPtr) then
      let left ← depthFirstSearchFree n (← child .left node)
      let right ← depthFirstSearchFree n (← child .right node)
      let k ← key node
      let v ← value node
      freeNodeRbTree node
      return left ++ right ++ [(k, v)]
    else return []

end AssocRbHeap

end FlexRic.Ds
