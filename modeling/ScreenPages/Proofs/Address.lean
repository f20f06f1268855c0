import Mathlib.Data.List.Lex
import Mathlib.Data.List.Nodup
import ScreenPages.Node

/-!
# Addresses of nodes

The **address** of a node of a tree is the way to it from the root: at each node, the number of
the child to go on to.  An address begins with the addresses of the nodes above, and the
document order, a node before its children and the children one after another, is the
lexicographic order of addresses.

The number of nodes before a node, its **offset**, can be told from its address alone: at each
step down the node itself and the trees of the earlier children are passed.

## Main definitions

* `Node.at?` — the node at an address.
* `Node.addresses` — the addresses of all nodes in document order.
* `Node.offset` — the number of nodes before an address.

## Main results

* `Node.mem_addresses_iff` — the addresses of a tree are those at which there is a node.
* `Node.pairwise_addresses` — they stand in lexicographic order.
* `Node.getElem?_addresses_eq_some_iff` — the one at a position is the one with that offset.
-/

namespace ScreenPages.Node

variable {n m c : Node} {a b : List Nat} {i k : Nat}

/-! ### Sizes -/

theorem size_eq (n : Node) : n.size = 1 + sizeList n.children := by
  obtain ⟨step, frame, hittable, children⟩ := n
  rw [size]

theorem size_pos (n : Node) : 0 < n.size := by
  rw [size_eq]
  omega

theorem sizeList_take_succ {ns : List Node} (h : ns[i]? = some c) :
    sizeList (ns.take (i + 1)) = sizeList (ns.take i) + c.size := by
  induction ns generalizing i with
  | nil => cases h
  | cons n ns ih =>
    cases i with
    | zero =>
      obtain rfl := Option.some.inj h
      simp [sizeList]
    | succ i =>
      rw [List.take_succ_cons, List.take_succ_cons, sizeList, sizeList, ih h]
      omega

theorem sizeList_take_le (ns : List Node) (i : Nat) : sizeList (ns.take i) ≤ sizeList ns := by
  induction ns generalizing i with
  | nil => simp
  | cons n ns ih =>
    cases i with
    | zero => simp [sizeList]
    | succ i =>
      have h := ih i
      rw [List.take_succ_cons, sizeList, sizeList]
      omega

theorem sizeList_take_mono (ns : List Node) {i j : Nat} (h : i ≤ j) :
    sizeList (ns.take i) ≤ sizeList (ns.take j) := by
  have hle := sizeList_take_le (ns.take j) i
  rw [List.take_take, Nat.min_eq_left h] at hle
  exact hle

theorem sizeList_take_add_le {ns : List Node} (h : ns[i]? = some c) :
    sizeList (ns.take i) + c.size ≤ sizeList ns := by
  rw [← sizeList_take_succ h]
  exact sizeList_take_le ns (i + 1)

/-- A node has more nodes than children. -/
theorem length_children_lt (n : Node) : n.children.length < n.size := by
  have hlist : ∀ ns : List Node, ns.length ≤ sizeList ns := by
    intro ns
    induction ns with
    | nil => exact le_rfl
    | cons n ns ih =>
      have hpos := size_pos n
      rw [List.length_cons, sizeList]
      omega
  have h := hlist n.children
  rw [size_eq]
  omega

/-! ### The node at an address -/

/-- The node at an address. -/
def at? : Node → List Nat → Option Node
  | n, [] => some n
  | n, i :: is => n.children[i]?.bind fun c => c.at? is

@[simp] theorem at?_nil (n : Node) : n.at? [] = some n := rfl

theorem at?_cons_eq_some_iff :
    n.at? (i :: a) = some m ↔ ∃ c, n.children[i]? = some c ∧ c.at? a = some m := by
  rw [at?, Option.bind_eq_some_iff]

/-- The way to a node below another goes on from there. -/
theorem at?_append (h : n.at? a = some m) (b : List Nat) : n.at? (a ++ b) = m.at? b := by
  induction a generalizing n with
  | nil =>
    obtain rfl := Option.some.inj h
    rfl
  | cons i a ih =>
    obtain ⟨c, hc, hm⟩ := at?_cons_eq_some_iff.mp h
    rw [List.cons_append, at?, hc, Option.bind_some]
    exact ih hm

theorem at?_concat (h : n.at? a = some m) (hc : m.children[i]? = some c) :
    n.at? (a ++ [i]) = some c := by
  rw [at?_append h, at?, hc, Option.bind_some, at?_nil]

/-- There are nodes all the way to a node. -/
theorem exists_at?_eq_some_of_append (h : n.at? (a ++ b) = some m) : ∃ c, n.at? a = some c := by
  induction a generalizing n with
  | nil => exact ⟨n, rfl⟩
  | cons i a ih =>
    obtain ⟨c, hc, hm⟩ := at?_cons_eq_some_iff.mp h
    obtain ⟨d, hd⟩ := ih hm
    exact ⟨d, at?_cons_eq_some_iff.mpr ⟨c, hc, hd⟩⟩

/-! ### Offsets -/

/-- The number of nodes before the one at an address. -/
def offset : Node → List Nat → Nat
  | _, [] => 0
  | n, i :: is =>
    1 + sizeList (n.children.take i) + (n.children[i]?.map fun c => c.offset is).getD 0

@[simp] theorem offset_nil (n : Node) : n.offset [] = 0 := rfl

theorem offset_cons (h : n.children[i]? = some c) (a : List Nat) :
    n.offset (i :: a) = 1 + sizeList (n.children.take i) + c.offset a := by
  rw [offset, h, Option.map_some, Option.getD_some]

/-- The tree of a node that is reached is a part of the whole tree. -/
theorem offset_add_size_le (h : n.at? a = some m) : n.offset a + m.size ≤ n.size := by
  induction a generalizing n with
  | nil =>
    obtain rfl := Option.some.inj h
    rw [offset_nil, Nat.zero_add]
  | cons i a ih =>
    obtain ⟨c, hc, hm⟩ := at?_cons_eq_some_iff.mp h
    have hrest := ih hm
    have hfront := sizeList_take_add_le hc
    rw [offset_cons hc, size_eq n]
    omega

theorem offset_append (h : n.at? a = some m) (b : List Nat) :
    n.offset (a ++ b) = n.offset a + m.offset b := by
  induction a generalizing n with
  | nil =>
    obtain rfl := Option.some.inj h
    rw [List.nil_append, offset_nil, Nat.zero_add]
  | cons i a ih =>
    obtain ⟨c, hc, hm⟩ := at?_cons_eq_some_iff.mp h
    rw [List.cons_append, offset_cons hc, offset_cons hc, ih hm]
    omega

theorem offset_concat (h : n.at? a = some m) (hc : m.children[i]? = some c) :
    n.offset (a ++ [i]) = n.offset a + 1 + sizeList (m.children.take i) := by
  rw [offset_append h, offset_cons hc, offset_nil, Nat.add_zero, Nat.add_assoc]

/-- The address of a node is no longer than the number of nodes before it: all nodes on the way
are there. -/
theorem length_le_offset (h : n.at? a = some m) : a.length ≤ n.offset a := by
  induction a generalizing n with
  | nil => exact le_rfl
  | cons i a ih =>
    obtain ⟨c, hc, hm⟩ := at?_cons_eq_some_iff.mp h
    have hrest := ih hm
    rw [offset_cons hc, List.length_cons]
    omega

/-! ### The addresses of a tree -/

mutual

/-- The addresses of the nodes of a tree in document order. -/
def addresses : Node → List (List Nat)
  | ⟨_, _, _, children⟩ => [] :: addressesFrom 0 children

/-- The addresses of the nodes of several trees side by side, of which the first has the given
number. -/
def addressesFrom (i : Nat) : List Node → List (List Nat)
  | [] => []
  | n :: ns => (addresses n).map (i :: ·) ++ addressesFrom (i + 1) ns

end

theorem addresses_eq (n : Node) : n.addresses = [] :: addressesFrom 0 n.children := by
  obtain ⟨step, frame, hittable, children⟩ := n
  rw [addresses]

mutual

/-- Every node has one address. -/
theorem length_addresses : ∀ n : Node, n.addresses.length = n.size
  | ⟨step, frame, hittable, children⟩ => by
    rw [addresses, size, List.length_cons, length_addressesFrom 0 children, Nat.add_comm]

theorem length_addressesFrom : ∀ (i : Nat) (ns : List Node),
    (addressesFrom i ns).length = sizeList ns
  | _, [] => by rw [addressesFrom, sizeList, List.length_nil]
  | i, n :: ns => by
    rw [addressesFrom, sizeList, List.length_append, List.length_map, length_addresses n,
      length_addressesFrom (i + 1) ns]

end

theorem mem_addressesFrom_iff {ns : List Node} :
    a ∈ addressesFrom i ns ↔ ∃ j c b, ns[j]? = some c ∧ b ∈ c.addresses ∧ a = (i + j) :: b := by
  induction ns generalizing i with
  | nil => simp [addressesFrom]
  | cons n ns ih =>
    rw [addressesFrom, List.mem_append, List.mem_map, ih]
    constructor
    · rintro (⟨b, hb, rfl⟩ | ⟨j, c, b, hc, hb, rfl⟩)
      · exact ⟨0, n, b, rfl, hb, rfl⟩
      · exact ⟨j + 1, c, b, hc, hb, by rw [Nat.add_right_comm, Nat.add_assoc]⟩
    · rintro ⟨j, c, b, hc, hb, rfl⟩
      cases j with
      | zero =>
        obtain rfl := Option.some.inj hc
        exact .inl ⟨b, hb, rfl⟩
      | succ j => exact .inr ⟨j, c, b, hc, hb, by rw [Nat.add_right_comm, Nat.add_assoc]⟩

/-- **The addresses of a tree are those at which there is a node.** -/
theorem mem_addresses_iff : a ∈ n.addresses ↔ (n.at? a).isSome := by
  induction a generalizing n with
  | nil => simp [addresses_eq]
  | cons i a ih =>
    rw [addresses_eq, List.mem_cons, mem_addressesFrom_iff, Option.isSome_iff_exists]
    simp only [at?_cons_eq_some_iff]
    constructor
    · rintro (h | ⟨j, c, b, hc, hb, h⟩)
      · cases h
      · obtain ⟨rfl, rfl⟩ := List.cons_eq_cons.mp h
        obtain ⟨m, hm⟩ := Option.isSome_iff_exists.mp (ih.mp hb)
        exact ⟨m, c, by rw [Nat.zero_add]; exact hc, hm⟩
    · rintro ⟨m, c, hc, hm⟩
      exact .inr ⟨i, c, a, hc, ih.mpr (by rw [hm]; rfl), by rw [Nat.zero_add]⟩

mutual

/-- **The addresses of a tree stand in lexicographic order.** -/
theorem pairwise_addresses : ∀ n : Node, n.addresses.Pairwise (· < ·)
  | ⟨step, frame, hittable, children⟩ => by
    rw [addresses, List.pairwise_cons]
    refine ⟨?_, pairwise_addressesFrom 0 children⟩
    intro a ha
    obtain ⟨j, c, b, -, -, rfl⟩ := mem_addressesFrom_iff.mp ha
    exact List.nil_lt_cons _ _

theorem pairwise_addressesFrom : ∀ (i : Nat) (ns : List Node),
    (addressesFrom i ns).Pairwise (· < ·)
  | _, [] => by
    rw [addressesFrom]
    exact List.Pairwise.nil
  | i, n :: ns => by
    rw [addressesFrom, List.pairwise_append]
    refine ⟨?_, pairwise_addressesFrom (i + 1) ns, ?_⟩
    · rw [List.pairwise_map]
      refine (pairwise_addresses n).imp ?_
      intro a b hab
      exact List.cons_lt_cons_iff.mpr (.inr ⟨rfl, hab⟩)
    · -- the numbers of the later trees are greater
      intro a ha b hb
      obtain ⟨a', -, rfl⟩ := List.mem_map.mp ha
      obtain ⟨j, c, b', -, -, rfl⟩ := mem_addressesFrom_iff.mp hb
      exact List.cons_lt_cons_iff.mpr (.inl (by omega))

end

theorem getElem?_addressesFrom {ns : List Node} {j : Nat} (hc : ns[j]? = some c)
    (ha : c.addresses[k]? = some a) :
    (addressesFrom i ns)[sizeList (ns.take j) + k]? = some ((i + j) :: a) := by
  induction ns generalizing i j with
  | nil => cases hc
  | cons n ns ih =>
    rw [addressesFrom]
    cases j with
    | zero =>
      obtain rfl := Option.some.inj hc
      have hlt : k < (n.addresses.map (i :: ·)).length := by
        obtain ⟨h, -⟩ := List.getElem?_eq_some_iff.mp ha
        rw [List.length_map]
        exact h
      rw [List.take_zero, sizeList, Nat.zero_add, List.getElem?_append_left hlt,
        List.getElem?_map, ha, Option.map_some, Nat.add_zero]
    | succ j =>
      have hlength : (n.addresses.map (i :: ·)).length = n.size := by
        rw [List.length_map, length_addresses]
      rw [List.take_succ_cons, sizeList, List.getElem?_append_right (by omega), hlength,
        show n.size + sizeList (ns.take j) + k - n.size = sizeList (ns.take j) + k by omega,
        ih hc, Nat.add_right_comm, Nat.add_assoc]

/-- The address of a node stands behind as many others as its offset says. -/
theorem getElem?_addresses_offset (h : n.at? a = some m) :
    n.addresses[n.offset a]? = some a := by
  induction a generalizing n with
  | nil => rw [addresses_eq, offset_nil, List.getElem?_cons_zero]
  | cons i a ih =>
    obtain ⟨c, hc, hm⟩ := at?_cons_eq_some_iff.mp h
    have hrest := getElem?_addressesFrom (i := 0) hc (ih hm)
    rw [addresses_eq, offset_cons hc, Nat.add_assoc, Nat.add_comm, List.getElem?_cons_succ, hrest,
      Nat.zero_add]

/-- **The address at a position is the one with that offset.** -/
theorem getElem?_addresses_eq_some_iff {p : Nat} :
    n.addresses[p]? = some a ↔ (∃ m, n.at? a = some m) ∧ n.offset a = p := by
  constructor
  · intro h
    obtain ⟨m, hm⟩ : ∃ m, n.at? a = some m :=
      Option.isSome_iff_exists.mp (mem_addresses_iff.mp (List.mem_of_getElem? h))
    refine ⟨⟨m, hm⟩, ?_⟩
    have hnodup : n.addresses.Nodup := (pairwise_addresses n).imp ne_of_lt
    obtain ⟨hp, hpa⟩ := List.getElem?_eq_some_iff.mp h
    obtain ⟨ho, hoa⟩ := List.getElem?_eq_some_iff.mp (getElem?_addresses_offset hm)
    exact (List.Nodup.getElem_inj_iff hnodup).mp (hoa.trans hpa.symm)
  · rintro ⟨⟨m, hm⟩, rfl⟩
    exact getElem?_addresses_offset hm

/-- The offsets of the addresses of a tree are its positions. -/
theorem map_offset_addresses (n : Node) : n.addresses.map n.offset = List.range n.size := by
  apply List.ext_getElem?
  intro p
  rw [List.getElem?_map]
  cases h : n.addresses[p]? with
  | none =>
    rw [List.getElem?_eq_none_iff, length_addresses] at h
    simp [h]
  | some a =>
    obtain ⟨hlt, -⟩ := List.getElem?_eq_some_iff.mp h
    rw [length_addresses] at hlt
    simp [hlt, (getElem?_addresses_eq_some_iff.mp h).2]

/-- At each position of a tree there is a node. -/
theorem exists_offset_eq {p : Nat} (h : p < n.size) : ∃ a m, n.at? a = some m ∧ n.offset a = p := by
  rw [← length_addresses] at h
  obtain ⟨⟨m, hm⟩, hp⟩ := getElem?_addresses_eq_some_iff.mp (List.getElem?_eq_getElem h)
  exact ⟨_, m, hm, hp⟩

end ScreenPages.Node
