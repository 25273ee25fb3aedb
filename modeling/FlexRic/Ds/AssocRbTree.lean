import Mathlib.Data.List.Basic
import FlexRic.Lib.Comparator

/-! # The red-black tree of `assoc_rb_tree.c`

The nodes reachable from `tree->root` are a value of `Tree`; a pointer into the tree is the subtree it
points at together with the frames from there up to the root, the parent first. What the source does
through `parent` pointers is done here on the frames. -/

namespace FlexRic.Ds

universe u v

/-- `assoc_color_e` -/
inductive AssocColor
  | black
  | red
  deriving DecidableEq, Repr

inductive Side
  | left
  | right
  deriving DecidableEq, Repr

@[simp] def Side.other : Side → Side
  | .left => .right
  | .right => .left

/-- `assoc_node_t`; `tree->dummy` is the black leaf that stands for no node. -/
inductive Tree (κ : Type u) (ν : Type v)
  | dummy
  | node (color : AssocColor) (left : Tree κ ν) (key : κ) (value : ν) (right : Tree κ ν)
  deriving Repr

/-- A parent with one child taken out: the child's side, and what the parent keeps. -/
structure Frame (κ : Type u) (ν : Type v) where
  side : Side
  color : AssocColor
  key : κ
  value : ν
  sibling : Tree κ ν
  deriving Repr

namespace Tree
variable {κ : Type u} {ν : Type v}

def color : Tree κ ν → AssocColor
  | dummy => .black
  | node c .. => c

@[simp] theorem color_dummy : (dummy : Tree κ ν).color = .black := rfl
@[simp] theorem color_node (c : AssocColor) (l : Tree κ ν) (k : κ) (v : ν) (r : Tree κ ν) :
    (node c l k v r).color = c := rfl

/-- `n->color = c`. The dummy is black already wherever the source paints it. -/
def paint (c : AssocColor) : Tree κ ν → Tree κ ν
  | dummy => dummy
  | node _ l k v r => node c l k v r

@[simp] theorem paint_dummy (c : AssocColor) : (dummy : Tree κ ν).paint c = dummy := rfl
@[simp] theorem paint_node (c c' : AssocColor) (l : Tree κ ν) (k : κ) (v : ν) (r : Tree κ ν) :
    (node c' l k v r).paint c = node c l k v r := rfl

@[simp] def toList : Tree κ ν → List (κ × ν)
  | dummy => []
  | node _ l k v r => l.toList ++ (k, v) :: r.toList

@[simp] def size : Tree κ ν → Nat
  | dummy => 0
  | node _ l _ _ r => l.size + r.size + 1

/-- The node with children `x`, on the given side, and `w`. -/
@[simp] def join (side : Side) (c : AssocColor) (x : Tree κ ν) (k : κ) (v : ν) (w : Tree κ ν) : Tree κ ν :=
  match side with
  | .left => node c x k v w
  | .right => node c w k v x

end Tree

/-- Put the child back under its parent. -/
@[simp] def Frame.plug {κ : Type u} {ν : Type v} (f : Frame κ ν) (x : Tree κ ν) : Tree κ ν :=
  Tree.join f.side f.color x f.key f.value f.sibling

namespace Tree
variable {κ : Type u} {ν : Type v}

/-- The whole tree, from a subtree and the frames above it. -/
@[simp] def plug (x : Tree κ ν) : List (Frame κ ν) → Tree κ ν
  | [] => x
  | f :: path => plug (f.plug x) path

/-! ### Rotations -/

def leftRotate : Tree κ ν → Option (Tree κ ν)
  | node cx a kx vx (node cy b ky vy c) => some (node cy (node cx a kx vx b) ky vy c)
  | _ => none -- assert(x_node->right != tree->dummy)

def rightRotate : Tree κ ν → Option (Tree κ ν)
  | node cx (node cy a ky vy b) kx vx c => some (node cy a ky vy (node cx b kx vx c))
  | _ => none -- assert(x_node->left != tree->dummy)

@[simp] theorem leftRotate_node (cx cy : AssocColor) (a b c : Tree κ ν) (kx ky : κ) (vx vy : ν) :
    leftRotate (node cx a kx vx (node cy b ky vy c)) = some (node cy (node cx a kx vx b) ky vy c) := rfl

@[simp] theorem rightRotate_node (cx cy : AssocColor) (a b c : Tree κ ν) (kx ky : κ) (vx vy : ν) :
    rightRotate (node cx (node cy a ky vy b) kx vx c) = some (node cy a ky vy (node cx b kx vx c)) := rfl

/-- The rotation that moves the node down on the given side. -/
@[simp] def rotate : Side → Tree κ ν → Option (Tree κ ν)
  | .left => leftRotate
  | .right => rightRotate

/-! ### Insertion -/

/-- Case 2 of `insert_fixup`: the subtree of the parent, with its red child on the outer side. -/
def outerChild (side : Side) (parent : Frame κ ν) (z : Tree κ ν) : Option (Tree κ ν) :=
  if parent.side = side then some (parent.plug z) else rotate side (parent.plug z)

/-- `insert_fixup`, `z` being `z_node`. The two halves of the source's loop body mirror each other, and
the side of the parent under the grandparent chooses between them. -/
def insertFixup (z : Tree κ ν) : List (Frame κ ν) → Option (Tree κ ν)
  | [] => some (z.paint .black)
  | [parent] =>
    match parent.color with
    | .black => some ((parent.plug z).paint .black)
    | .red => none -- the grandparent would be the dummy, which has no children
  | parent :: grand :: path =>
    match parent.color with
    | .black => some ((plug z (parent :: grand :: path)).paint .black)
    | .red =>
      match grand.sibling.color with
      | .red =>
        insertFixup (join grand.side .red (join parent.side .black z parent.key parent.value parent.sibling)
          grand.key grand.value (grand.sibling.paint .black)) path
      | .black => do
        let p ← outerChild grand.side parent z
        let top ← rotate grand.side.other
          (join grand.side .red (p.paint .black) grand.key grand.value grand.sibling)
        return (plug top path).paint .black

/-- The walk of `assoc_rb_tree_insert` to the leaf where the new node goes. -/
def descend (cmp : κ → κ → Int) (key : κ) : Tree κ ν → List (Frame κ ν) → List (Frame κ ν)
  | dummy, path => path
  | node c l k v r, path =>
    if cmp key k = 1 then descend cmp key l (⟨.left, c, k, v, r⟩ :: path)
    else descend cmp key r (⟨.right, c, k, v, l⟩ :: path)

/-- `assoc_rb_tree_insert` -/
def insert (cmp : κ → κ → Int) (key : κ) (value : ν) (t : Tree κ ν) : Option (Tree κ ν) :=
  insertFixup (node .red dummy key value dummy) (descend cmp key t [])

/-! ### Extraction -/

/-- Case 3 of `delete_fixup`: the black sibling of a node on the given side, with its outer child red. -/
def outerNephew (side : Side) (wl : Tree κ ν) (wk : κ) (wv : ν) (wr : Tree κ ν) : Option (Tree κ ν) :=
  match side with
  | .left =>
    if wr.color = .black then rightRotate (node .red (wl.paint .black) wk wv wr)
    else some (node .black wl wk wv wr)
  | .right =>
    if wl.color = .black then leftRotate (node .red wl wk wv (wr.paint .black))
    else some (node .black wl wk wv wr)

/-- Cases 2 to 4 of `delete_fixup`, once the sibling `w` under the parent `p` of `x` is black: either the
loop goes on at the parent (`inl`), or it ends with the subtree in place (`inr`). -/
def fixBlackSibling (x : Tree κ ν) (p : Frame κ ν) : Option (Tree κ ν ⊕ Tree κ ν) :=
  match p.sibling with
  | dummy => none -- the dummy has no children to look at
  | node _ wl wk wv wr =>
    if wl.color = .black ∧ wr.color = .black then
      some (.inl (join p.side p.color x p.key p.value (node .red wl wk wv wr)))
    else do
      match ← outerNephew p.side wl wk wv wr with
      | dummy => none
      | node _ a k v b =>
        let w := match p.side with
          | .left => node p.color a k v (b.paint .black)
          | .right => node p.color (a.paint .black) k v b
        let top ← rotate p.side (join p.side .black x p.key p.value w)
        return .inr top

/-- `delete_fixup`, `x` being `x_node`. -/
def deleteFixup (x : Tree κ ν) : List (Frame κ ν) → Option (Tree κ ν)
  | [] => some (x.paint .black)
  | p :: path =>
    if x.color = .red then some (plug (x.paint .black) (p :: path))
    else
      match p.sibling with
      | dummy => none
      | node .black .. => do
        match ← fixBlackSibling x p with
        | .inl t => deleteFixup t path
        | .inr t => return (plug t path).paint .black
      | node .red wl wk wv wr => do
        -- Case 1: the rotation puts the sibling above the parent, which becomes red.
        let (near, far) := match p.side with
          | .left => (wl, wr)
          | .right => (wr, wl)
        let up : Frame κ ν := ⟨p.side, .black, wk, wv, far⟩
        match ← fixBlackSibling x ⟨p.side, .red, p.key, p.value, near⟩ with
        -- The loop goes on at the parent and stops there, because it is red.
        | .inl t => return plug (t.paint .black) (up :: path)
        | .inr t => return (plug t (up :: path)).paint .black

/-- `find_rb_tree` -/
def findNode (cmp : κ → κ → Int) (key : κ) : Tree κ ν → List (Frame κ ν) → Tree κ ν × List (Frame κ ν)
  | dummy, path => (dummy, path)
  | node c l k v r, path =>
    if cmp key k = 1 then findNode cmp key l (⟨.left, c, k, v, r⟩ :: path)
    else if cmp key k = -1 then findNode cmp key r (⟨.right, c, k, v, l⟩ :: path)
    else (node c l k v r, path)

/-- `minimum`: the leftmost node of a subtree, with the frames from the subtree's own path on. -/
def minimum : Tree κ ν → List (Frame κ ν) → Tree κ ν × List (Frame κ ν)
  | dummy, path => (dummy, path)
  | node c dummy k v r, path => (node c dummy k v r, path)
  | node c (node c' l' k' v' r') k v r, path => minimum (node c' l' k' v' r') (⟨.left, c, k, v, r⟩ :: path)

/-- The removal of the node that `assoc_rb_tree_extract` found. -/
def removeNode (c : AssocColor) (l : Tree κ ν) (r : Tree κ ν) (path : List (Frame κ ν)) : Option (Tree κ ν) :=
  match l, r with
  | dummy, r => if c = .black then deleteFixup r path else some (plug r path)
  | l, dummy => if c = .black then deleteFixup l path else some (plug l path)
  | l, node c' l' k' v' r' =>
    -- Inside the right subtree, above the node that goes, the successor takes the place of that node.
    let place (k : κ) (v : ν) : Frame κ ν := ⟨.right, c, k, v, l⟩
    match minimum (node c' l' k' v' r') [] with
    | (dummy, _) => none
    | (node cy _ ky vy x, inner) =>
      if cy = .black then deleteFixup x (inner ++ place ky vy :: path)
      else some (plug x (inner ++ place ky vy :: path))

/-- `assoc_rb_tree_extract`: the node's value, and the tree without the node. -/
def extract (cmp : κ → κ → Int) (key : κ) (t : Tree κ ν) : Except String (ν × Tree κ ν) :=
  match findNode cmp key t [] with
  | (dummy, _) => .error "Trying to extract a key not found in the tree"
  | (node c l _ v r, path) =>
    match removeNode c l r path with
    | none => .error "delete_fixup"
    | some t' => .ok (v, t')

end Tree

end FlexRic.Ds
