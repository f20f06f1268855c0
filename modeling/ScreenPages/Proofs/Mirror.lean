import Mathlib.Data.List.Infix
import ScreenPages.Proofs.Address
import ScreenPages.Snapshot

/-!
# A snapshot mirrors its tree

The positions of a snapshot are those of the addresses of its tree in document order.  What
the snapshot keeps for a position are the attributes of the node at the address, and two
numbers that lead to other positions: that of the parent, and where the subtree stops.  All
that is read off a snapshot is computed from these numbers, and is as it is in the tree.

While a snapshot is taken the stop of a node is not known before all below it is there, so
it is written into an entry that others stand behind.  The outcome is that of listing each
tree with the right numbers at once.

## Main definitions

* `Snapshot.entriesOf` — the entries of a tree at a position.
* `Snapshot.MirrorsAt`, `Snapshot.Mirrors` — a snapshot shows a tree as it is.

## Main results

* `Snapshot.toList_push` — a tree that is pushed adds its entries and changes no other.
* `Snapshot.entry?_offset` — the entry of the node at an address.
* `Snapshot.mirrors_ofTree` — the snapshot of a tree mirrors it, and no other tree has the same.
-/

namespace ScreenPages.Snapshot

open Node

variable {root n m c : Node} {a b : List Nat} {p : Nat}

/-! ### The entries of a tree -/

mutual

/-- The entries of a tree whose root gets the given position, depth and parent. -/
def entriesOf (position depth : Nat) (parent : Option Nat) : Node → List Entry
  | ⟨step, frame, hittable, children⟩ =>
    ⟨step, frame, hittable, depth, parent, position + 1 + sizeList children⟩
      :: entriesOfList (position + 1) (depth + 1) position children

/-- The entries of several trees side by side, below the same parent. -/
def entriesOfList (position depth parent : Nat) : List Node → List Entry
  | [] => []
  | n :: ns =>
    entriesOf position depth (some parent) n ++ entriesOfList (position + n.size) depth parent ns

end

/-- The entry of a node at a position. -/
def entryOf (n : Node) (position depth : Nat) (parent : Option Nat) : Entry :=
  ⟨n.step, n.frame, n.hittable, depth, parent, position + n.size⟩

theorem entriesOf_eq (position depth : Nat) (parent : Option Nat) (n : Node) :
    entriesOf position depth parent n = entryOf n position depth parent ::
      entriesOfList (position + 1) (depth + 1) position n.children := by
  obtain ⟨step, frame, hittable, children⟩ := n
  rw [entriesOf, entryOf, Node.size, Nat.add_assoc]

mutual

theorem length_entriesOf : ∀ (n : Node) (position depth : Nat) (parent : Option Nat),
    (entriesOf position depth parent n).length = n.size
  | ⟨step, frame, hittable, children⟩, position, depth, parent => by
    rw [entriesOf, List.length_cons, length_entriesOfList, Node.size, Nat.add_comm]

theorem length_entriesOfList : ∀ (ns : List Node) (position depth parent : Nat),
    (entriesOfList position depth parent ns).length = sizeList ns
  | [], position, depth, parent => by rw [entriesOfList, sizeList, List.length_nil]
  | n :: ns, position, depth, parent => by
    rw [entriesOfList, sizeList, List.length_append, length_entriesOf, length_entriesOfList]

end

mutual

/-- **A tree that is pushed adds its entries, and changes none of those before.** -/
theorem toList_push : ∀ (n : Node) (entries : Array Entry) (depth : Nat) (parent : Option Nat),
    (push entries depth parent n).toList =
      entries.toList ++ entriesOf entries.size depth parent n
  | ⟨step, frame, hittable, children⟩, entries, depth, parent => by
    rw [push, entriesOf]
    -- the entry of the root before its stop is known
    generalize hopen : (⟨step, frame, hittable, depth, parent, entries.size + 1⟩ : Entry) = e
    have hfilled := toList_pushList children (entries.push e) (depth + 1) entries.size
    rw [Array.toList_push, Array.size_push, List.append_assoc, List.singleton_append] at hfilled
    have hsize : (pushList (entries.push e) (depth + 1) entries.size children).size =
        entries.size + 1 + sizeList children := by
      rw [← Array.length_toList, hfilled, List.length_append, List.length_cons,
        length_entriesOfList, Array.length_toList]
      omega
    simp only [Array.toList_setIfInBounds, hopen, hsize, hfilled]
    rw [List.set_append_right _ _ Array.length_toList.le, Array.length_toList, Nat.sub_self,
      List.set_cons_zero]

theorem toList_pushList : ∀ (ns : List Node) (entries : Array Entry) (depth parent : Nat),
    (pushList entries depth parent ns).toList =
      entries.toList ++ entriesOfList entries.size depth parent ns
  | [], entries, depth, parent => by rw [pushList, entriesOfList, List.append_nil]
  | n :: ns, entries, depth, parent => by
    have hfirst := toList_push n entries depth (some parent)
    have hsize : (push entries depth (some parent) n).size = entries.size + n.size := by
      rw [← Array.length_toList, hfirst, List.length_append, length_entriesOf,
        Array.length_toList]
    rw [pushList, toList_pushList, hfirst, hsize, entriesOfList, List.append_assoc]

end

theorem toList_entries_ofTree (root : Node) :
    (ofTree root).entries.toList = entriesOf 0 0 none root := by
  rw [ofTree, toList_push, List.nil_append]
  rfl

theorem size_ofTree (root : Node) : (ofTree root).size = root.size := by
  rw [size, ← Array.length_toList, toList_entries_ofTree, length_entriesOf]

/-! ### The entry at an address -/

theorem getElem?_entriesOfList {ns : List Node} {i k position depth parent : Nat}
    (hc : ns[i]? = some c) (hk : k < c.size) :
    (entriesOfList position depth parent ns)[sizeList (ns.take i) + k]? =
      (entriesOf (position + sizeList (ns.take i)) depth (some parent) c)[k]? := by
  induction ns generalizing i position with
  | nil => cases hc
  | cons n ns ih =>
    have hlength := length_entriesOf n position depth (some parent)
    rw [entriesOfList]
    cases i with
    | zero =>
      obtain rfl := Option.some.inj hc
      rw [List.take_zero, sizeList, Nat.zero_add, Nat.add_zero,
        List.getElem?_append_left (by omega)]
    | succ i =>
      rw [List.take_succ_cons, sizeList, List.getElem?_append_right (by omega), hlength,
        show n.size + sizeList (ns.take i) + k - n.size = sizeList (ns.take i) + k by omega,
        ih hc, Nat.add_assoc]

/-- The position of the parent of the node at an address. -/
def link (n : Node) (position : Nat) (parent : Option Nat) (a : List Nat) : Option Nat :=
  if a = [] then parent else some (position + n.offset a.dropLast)

/-- The parent of a node below a child is told within the tree of the child, or is the root. -/
theorem link_cons {i position : Nat} {parent : Option Nat} (h : n.children[i]? = some c)
    (a : List Nat) : link n position parent (i :: a) =
      link c (position + 1 + sizeList (n.children.take i)) (some position) a := by
  rw [link, link, if_neg (List.cons_ne_nil i a)]
  by_cases ha : a = []
  · rw [if_pos ha, ha, List.dropLast_singleton, offset_nil, Nat.add_zero]
  · rw [if_neg ha, List.dropLast_cons_of_ne_nil ha, offset_cons h]
    congr 1
    omega

theorem getElem?_entriesOf {position depth : Nat} {parent : Option Nat} (h : n.at? a = some m) :
    (entriesOf position depth parent n)[n.offset a]? =
      some (entryOf m (position + n.offset a) (depth + a.length) (link n position parent a)) := by
  induction a generalizing n position depth parent with
  | nil =>
    obtain rfl := Option.some.inj h
    rw [entriesOf_eq, offset_nil, List.getElem?_cons_zero]
    rfl
  | cons i a ih =>
    obtain ⟨c, hc, hm⟩ := at?_cons_eq_some_iff.mp h
    -- the node is within the entries of the child
    have hlt : c.offset a < c.size := by
      have hle := offset_add_size_le hm
      have hpos := size_pos m
      omega
    rw [entriesOf_eq, offset_cons hc, link_cons hc, Nat.add_assoc, Nat.add_comm 1,
      List.getElem?_cons_succ, getElem?_entriesOfList hc hlt, ih hm, List.length_cons]
    congr 2
    · omega
    · omega

/-- **The entry of the node at an address.** -/
theorem entry?_offset (h : root.at? a = some n) :
    entry? (ofTree root) (root.offset a) =
      some (entryOf n (root.offset a) a.length (link root 0 none a)) := by
  have hentry : (entriesOf 0 0 none root)[root.offset a]? = _ := getElem?_entriesOf h
  rw [Nat.zero_add, Nat.zero_add] at hentry
  rw [ entry?, ← Array.getElem?_toList, toList_entries_ofTree, hentry]

/-! ### What is read off at an address -/

theorem stop_offset (h : root.at? a = some n) :
    (ofTree root).stop (root.offset a) = root.offset a + n.size := by
  rw [stop, entry?_offset h]
  rfl

theorem parent_offset (h : root.at? a = some n) :
    (ofTree root).parent (root.offset a) = link root 0 none a := by
  rw [parent, entry?_offset h]
  rfl

/-- The subtree of a node takes up the positions right behind it, as many as there are nodes
below it. -/
theorem subtree_offset (h : root.at? a = some n) :
    (ofTree root).subtree (root.offset a) = List.range' (root.offset a + 1) (n.size - 1) := by
  rw [subtree, stop_offset h]
  congr 1
  omega

/-- **The subtree of a node is made of the nodes whose address goes on from its own.** -/
theorem mem_subtree_offset_iff {q : Nat} (h : root.at? a = some n) :
    q ∈ (ofTree root).subtree (root.offset a) ↔
      ∃ b, root.addresses[q]? = some b ∧ a <+: b ∧ a ≠ b := by
  have hpos := size_pos n
  rw [subtree_offset h, List.mem_range'_1]
  constructor
  · rintro ⟨hlow, hhigh⟩
    -- the node at that distance in the tree of the node
    obtain ⟨b, m, hm, hb⟩ := exists_offset_eq (show q - root.offset a < n.size by omega)
    refine ⟨a ++ b, ?_, List.prefix_append a b, ?_⟩
    · rw [getElem?_addresses_eq_some_iff, at?_append h, offset_append h]
      exact ⟨⟨m, hm⟩, by omega⟩
    · intro hab
      rw [List.self_eq_append_right.mp hab, offset_nil] at hb
      omega
  · rintro ⟨_, hq, ⟨b, rfl⟩, hne⟩
    rw [getElem?_addresses_eq_some_iff, at?_append h, offset_append h] at hq
    obtain ⟨⟨m, hm⟩, rfl⟩ := hq
    have hle := offset_add_size_le hm
    have hsize := size_pos m
    have hb : b ≠ [] := by
      rintro rfl
      exact hne (List.append_nil a).symm
    have hlength := length_le_offset hm
    have hbpos := List.length_pos_iff.mpr hb
    omega

/-- Hopping from the child with a number goes through all later children, however many more
hops are allowed. -/
theorem hop_offset (h : root.at? a = some n) {i fuel : Nat}
    (hfuel : n.children.length - i ≤ fuel) :
    (ofTree root).hop (root.offset a + n.size) fuel
      (root.offset a + 1 + sizeList (n.children.take i)) =
        (List.range' i (n.children.length - i)).map fun j => root.offset (a ++ [j]) := by
  induction fuel generalizing i with
  | zero =>
    rw [hop, Nat.le_zero.mp hfuel]
    rfl
  | succ fuel ih =>
    have hsize := size_eq n
    rw [hop]
    by_cases hi : i < n.children.length
    · have hc : n.children[i]? = some n.children[i] := List.getElem?_eq_getElem hi
      have hoffset := offset_concat h hc
      -- behind the tree of this child is the next one
      have hstop : (ofTree root).stop (root.offset (a ++ [i])) =
          root.offset a + 1 + sizeList (n.children.take (i + 1)) := by
        rw [stop_offset (at?_concat h hc), hoffset, sizeList_take_succ hc, Nat.add_assoc]
      have hle := sizeList_take_add_le hc
      have hpos := size_pos n.children[i]
      rw [if_pos (by omega), ← hoffset, hstop, ih (by omega),
        show n.children.length - i = n.children.length - (i + 1) + 1 by omega, List.range'_succ,
        List.map_cons]
    · -- all children are passed
      have hall : n.children.take i = n.children := List.take_of_length_le (by omega)
      rw [hall, if_neg (by omega), show n.children.length - i = 0 by omega]
      rfl

/-- **The children of a node are found in order**, and the hopping from one to the next ends
by itself. -/
theorem hop_children_offset (h : root.at? a = some n) {fuel : Nat}
    (hfuel : (ofTree root).size ≤ fuel) :
    (ofTree root).hop ((ofTree root).stop (root.offset a)) fuel (root.offset a + 1) =
      (List.range n.children.length).map fun i => root.offset (a ++ [i]) := by
  have hle := offset_add_size_le h
  have hchildren := length_children_lt n
  rw [size_ofTree] at hfuel
  have hhop := hop_offset h (show n.children.length - 0 ≤ fuel by omega)
  rw [stop_offset h, List.range_eq_range']
  exact hhop

theorem children_offset (h : root.at? a = some n) :
    (ofTree root).children (root.offset a) =
      (List.range n.children.length).map fun i => root.offset (a ++ [i]) :=
  hop_children_offset h le_rfl

/-- The depth of a node is less than the number of nodes. -/
theorem length_lt_size (h : root.at? a = some n) : a.length < (ofTree root).size := by
  have hlength := length_le_offset h
  have hle := offset_add_size_le h
  have hpos := size_pos n
  rw [size_ofTree]
  omega

/-- **The path to a node is made of the steps of the nodes on the way**, and the walk up ends
at the root. -/
theorem trail_offset (h : root.at? a = some n) {fuel : Nat} (hfuel : a.length < fuel) :
    ((ofTree root).trail fuel (root.offset a)).reverse.map some =
      a.inits.map fun b => (root.at? b).map Node.step := by
  induction a using List.reverseRecOn generalizing n fuel with
  | nil =>
    obtain ⟨fuel, rfl⟩ := Nat.exists_eq_add_one_of_ne_zero (Nat.ne_zero_of_lt hfuel)
    obtain rfl := Option.some.inj h
    rw [trail, entry?_offset h]
    rfl
  | append_singleton a i ih =>
    obtain ⟨fuel, rfl⟩ := Nat.exists_eq_add_one_of_ne_zero (Nat.ne_zero_of_lt hfuel)
    -- one step up from the node is the one that its address comes from
    obtain ⟨m, hm⟩ := exists_at?_eq_some_of_append h
    have hlink : link root 0 none (a ++ [i]) = some (root.offset a) := by
      rw [link, if_neg (List.concat_ne_nil i a), List.dropLast_concat, Nat.zero_add]
    have hlt : a.length < fuel := by
      rw [List.length_append, List.length_singleton] at hfuel
      omega
    have hup := ih hm hlt
    rw [trail, entry?_offset h]
    simp only [entryOf, hlink]
    rw [List.reverse_cons, List.map_append, hup, List.inits_append]
    simp [h]

/-- A child and all that is below it stand before every later child. -/
theorem lt_offset_concat (h : root.at? a = some n) {i j x : Nat} (hij : i < j)
    (hj : j < n.children.length)
    (hx : x = root.offset (a ++ [i]) ∨ x ∈ (ofTree root).subtree (root.offset (a ++ [i]))) :
    x < root.offset (a ++ [j]) := by
  have hi : n.children[i]? = some n.children[i] := List.getElem?_eq_getElem (hij.trans hj)
  have hmono := sizeList_take_mono n.children (Nat.succ_le_of_lt hij)
  have hpos := size_pos n.children[i]
  rw [sizeList_take_succ hi] at hmono
  rw [subtree_offset (at?_concat h hi), List.mem_range'_1, offset_concat h hi] at hx
  rw [offset_concat h (List.getElem?_eq_getElem hj)]
  rcases hx with hx | hx
  · omega
  · omega

/-! ### The whole snapshot -/

/-- At a position a snapshot shows the node at an address of a tree as it is. -/
structure MirrorsAt (s : Snapshot) (root : Node) (p : Nat) (a : List Nat) (n : Node) : Prop where
  /-- The attributes are those of the node, and the depth is that of its address. -/
  entry : ∃ e, s.entry? p = some e ∧ e.step = n.step ∧ e.frame = n.frame ∧
    e.hittable = n.hittable ∧ e.depth = a.length
  indexed : index p = p + 1
  /-- The subtree is made of all nodes that the address leads on to. -/
  subtree : ∀ q, q ∈ s.subtree p ↔ ∃ b, root.addresses[q]? = some b ∧ a <+: b ∧ a ≠ b
  /-- It takes up the positions right behind the node. -/
  contiguous : s.subtree p = List.range' (p + 1) (n.size - 1)
  later : ∀ q ∈ s.subtree p, index p < index q
  /-- The children are those of the node in order. -/
  children : (s.children p).map (root.addresses[·]?) =
    (List.range n.children.length).map fun i => some (a ++ [i])
  /-- The search for children ends: more hops find no more. -/
  childrenEnd : ∀ fuel, s.size ≤ fuel → s.hop (s.stop p) fuel (p + 1) = s.children p
  /-- Each child and all that is below it stand before the next child. -/
  siblings : (s.children p).Pairwise fun q r => ∀ x, x = q ∨ x ∈ s.subtree q → x < r
  /-- The parent is the node that the address comes from; the root has none. -/
  parent : ∀ q, s.parent p = some q ↔ ∃ b i, a = b ++ [i] ∧ root.addresses[q]? = some b
  /-- The path is made of the steps of the nodes on the way. -/
  path : (s.path p).map some = a.inits.map fun b => (root.at? b).map Node.step
  pathLength : (s.path p).length = a.length + 1
  /-- The walk up to the root ends: with more steps allowed it is the same. -/
  pathEnd : ∀ fuel, s.size ≤ fuel → (s.trail fuel p).reverse = s.path p

/-- A snapshot shows a tree as it is: there is one position for each address, in
lexicographic order. -/
structure Mirrors (s : Snapshot) (root : Node) : Prop where
  size : s.size = root.size
  positions : s.size = root.addresses.length
  complete : ∀ a, a ∈ root.addresses ↔ (root.at? a).isSome
  preorder : root.addresses.Pairwise (· < ·)
  mirrorsAt : ∀ p a n, root.addresses[p]? = some a → root.at? a = some n → s.MirrorsAt root p a n

theorem parent_offset_eq_some_iff {q : Nat} (h : root.at? a = some n) :
    (ofTree root).parent (root.offset a) = some q ↔
      ∃ b i, a = b ++ [i] ∧ root.addresses[q]? = some b := by
  rw [parent_offset h, link]
  rcases List.eq_nil_or_concat' a with rfl | ⟨b, i, rfl⟩
  · simp
  · rw [if_neg (List.concat_ne_nil i b), List.dropLast_concat, Nat.zero_add, Option.some.injEq]
    have hb : ∃ m, root.at? b = some m := exists_at?_eq_some_of_append h
    constructor
    · rintro rfl
      exact ⟨b, i, rfl, getElem?_addresses_eq_some_iff.mpr ⟨hb, rfl⟩⟩
    · rintro ⟨b', i', heq, hq⟩
      obtain ⟨rfl, -⟩ := List.append_inj' heq rfl
      exact (getElem?_addresses_eq_some_iff.mp hq).2

/-- **At the offset of each node a snapshot shows the node as it is.** -/
theorem mirrorsAt_offset (h : root.at? a = some n) :
    (ofTree root).MirrorsAt root (root.offset a) a n where
  entry := ⟨_, entry?_offset h, rfl, rfl, rfl, rfl⟩
  indexed := rfl
  subtree _ := mem_subtree_offset_iff h
  contiguous := subtree_offset h
  later := by
    intro q hq
    have hlow := (List.mem_range'_1.mp hq).1
    exact Nat.succ_lt_succ hlow
  children := by
    rw [children_offset h, List.map_map]
    refine List.map_congr_left ?_
    intro i hi
    have hlt : i < n.children.length := List.mem_range.mp hi
    have hc : n.children[i]? = some n.children[i] := List.getElem?_eq_getElem hlt
    exact getElem?_addresses_offset (at?_concat h hc)
  childrenEnd := by
    intro fuel hfuel
    rw [hop_children_offset h hfuel, children_offset h]
  siblings := by
    rw [children_offset h, List.pairwise_map]
    refine List.pairwise_lt_range.imp_of_mem ?_
    intro i j _ hj hij x hx
    exact lt_offset_concat h hij (List.mem_range.mp hj) hx
  parent _ := parent_offset_eq_some_iff h
  path := trail_offset h (length_lt_size h)
  pathLength := by
    have hlength := congrArg List.length (trail_offset h (length_lt_size h))
    rw [List.length_map, List.length_map, List.length_inits] at hlength
    exact hlength
  pathEnd := by
    intro fuel hfuel
    have hinjective : Function.Injective (some : Step → Option Step) := fun _ _ => Option.some.inj
    refine List.map_injective_iff.mpr hinjective ?_
    rw [trail_offset h (Nat.lt_of_lt_of_le (length_lt_size h) hfuel)]
    exact (trail_offset h (length_lt_size h)).symm

mutual

/-- A tree can be told from its entries. -/
theorem eq_of_entriesOf_eq : ∀ (n m : Node) (position depth : Nat) (parent : Option Nat),
    entriesOf position depth parent n = entriesOf position depth parent m → n = m
  | ⟨step, frame, hittable, ns⟩, ⟨step', frame', hittable', ms⟩, position, depth, parent => by
    intro h
    rw [entriesOf, entriesOf] at h
    obtain ⟨hroot, hbelow⟩ := List.cons_eq_cons.mp h
    obtain rfl := eq_of_entriesOfList_eq ns ms _ _ _ hbelow
    obtain ⟨rfl, rfl, rfl, -⟩ := Entry.mk.inj hroot
    rfl

theorem eq_of_entriesOfList_eq : ∀ (ns ms : List Node) (position depth parent : Nat),
    entriesOfList position depth parent ns = entriesOfList position depth parent ms → ns = ms
  | [], [], _, _, _ => fun _ => rfl
  | [], m :: ms, position, depth, parent => by
    intro h
    rw [entriesOfList, entriesOfList, entriesOf_eq, List.cons_append] at h
    cases h
  | n :: ns, [], position, depth, parent => by
    intro h
    rw [entriesOfList, entriesOfList, entriesOf_eq, List.cons_append] at h
    cases h
  | n :: ns, m :: ms, position, depth, parent => by
    intro h
    -- the stops of the first roots tell how far the first trees go
    have hsize : n.size = m.size := by
      rw [entriesOfList, entriesOfList, entriesOf_eq, entriesOf_eq] at h
      have hroot := congrArg Entry.stop (List.cons_eq_cons.mp h).1
      exact Nat.add_left_cancel hroot
    rw [entriesOfList, entriesOfList, hsize] at h
    obtain ⟨hfirst, hrest⟩ := List.append_inj h (by rw [length_entriesOf, length_entriesOf, hsize])
    rw [eq_of_entriesOf_eq n m _ _ _ hfirst, eq_of_entriesOfList_eq ns ms _ _ _ hrest]

end

/-- **The snapshot of a tree mirrors it**: it has one position for each node in document order,
and the subtree, the children, the parent and the path that it gives for a position are those
of the node.  **And no other tree has the same snapshot.** -/
theorem mirrors_ofTree :
    (∀ root, (ofTree root).Mirrors root) ∧ ∀ n m, ofTree n = ofTree m → n = m := by
  refine ⟨?_, ?_⟩
  · intro root
    refine ⟨size_ofTree root, ?_, fun _ => mem_addresses_iff, pairwise_addresses root, ?_⟩
    · rw [size_ofTree, length_addresses]
    · intro p a n hp hn
      obtain ⟨-, rfl⟩ := getElem?_addresses_eq_some_iff.mp hp
      exact mirrorsAt_offset hn
  · intro n m h
    refine eq_of_entriesOf_eq n m 0 0 none ?_
    rw [← toList_entries_ofTree, ← toList_entries_ofTree, h]

/-- The views of a snapshot of four nodes. -/
example :
    let leaf : Node := ⟨⟨.cell, "", "", none⟩, none, none, []⟩
    let s := ofTree { leaf with children := [{ leaf with children := [leaf] }, leaf] }
    s.children 0 = [1, 3] ∧ s.subtree 1 = [2] ∧ s.parent 2 = some 1 := by
  decide +kernel

end ScreenPages.Snapshot
