import ScreenPages.Proofs.Mirror

/-!
# Where nodes stand

A node of a tree, or of several trees side by side, **stands** at a position in document
order, and a path leads to it from the root of its tree.  Said by recursion on the trees, this
is what a change to the trees can be followed with: what is changed within the tree of a child
moves no earlier node, and moves all later ones by the same number.

A snapshot gives for each position the path and the end of the subtree of the node that stands
there.

## Main definitions

* `Node.Stands` — a node stands at a position, and its path.
* `Snapshot.Lists` — a snapshot lists some trees from a position on.

## Main results

* `Node.exists_stands` — at each position stands a node.
* `Node.Stands.path_eq`, `Node.Stands.stop_eq` — what a snapshot gives for the position.
* `Snapshot.lists_ofTree` — the snapshot of a tree lists it.
-/

namespace ScreenPages

namespace Node

/-- Among some trees side by side a node stands at a position in document order; the path
leads to it from the root of its tree. -/
inductive Stands : List Node → Nat → List Step → Node → Prop
  | root (n : Node) (ns : List Node) : Stands (n :: ns) 0 [n.step] n
  | inner {n m : Node} {ns : List Node} {p : Nat} {path : List Step}
      (h : Stands n.children p path m) : Stands (n :: ns) (p + 1) (n.step :: path) m
  | behind {n m : Node} {ns : List Node} {p : Nat} {path : List Step} (h : Stands ns p path m) :
      Stands (n :: ns) (n.size + p) path m

variable {root n m : Node} {ns ms : List Node} {p : Nat} {path : List Step}

theorem sizeList_append (ns ms : List Node) : sizeList (ns ++ ms) = sizeList ns + sizeList ms := by
  induction ns with
  | nil => simp [sizeList]
  | cons n ns ih =>
    rw [List.cons_append, sizeList, sizeList, ih, Nat.add_assoc]

theorem sizeList_singleton (n : Node) : sizeList [n] = n.size := by
  rw [sizeList, sizeList, Nat.add_zero]

namespace Stands

/-- The subtree of a node is a part of the trees. -/
theorem add_size_le (h : Stands ns p path m) : p + m.size ≤ sizeList ns := by
  induction h with
  | root n ns => rw [sizeList]; omega
  | @inner n m ns p path _ ih =>
    have hsize := size_eq n
    rw [sizeList]
    omega
  | behind _ ih => rw [sizeList]; omega

theorem lt (h : Stands ns p path m) : p < sizeList ns := by
  have hle := h.add_size_le
  have hpos := size_pos m
  omega

/-- A path ends with the step of its node. -/
theorem getLast?_path (h : Stands ns p path m) : path.getLast? = some m.step := by
  induction h with
  | root n ns => rfl
  | @inner n m ns p path _ ih =>
    rw [List.getLast?_cons, ih]
    rfl
  | behind _ ih => exact ih

theorem path_ne_nil (h : Stands ns p path m) : path ≠ [] := by
  rintro rfl
  cases h.getLast?_path

/-- A node of the first trees stands where it does without those behind. -/
theorem append_right (h : Stands ns p path m) (ms : List Node) : Stands (ns ++ ms) p path m := by
  induction h with
  | root n ns => exact .root n (ns ++ ms)
  | inner h _ => exact .inner h
  | behind _ ih => exact .behind ih

/-- A node of some trees side by side is in the first of them or in the others. -/
theorem of_append (h : Stands (ns ++ ms) p path m) :
    Stands ns p path m ∨ ∃ q, p = sizeList ns + q ∧ Stands ms q path m := by
  induction ns generalizing p with
  | nil => exact .inr ⟨p, by rw [sizeList, Nat.zero_add], h⟩
  | cons n ns ih =>
    rw [List.cons_append] at h
    cases h with
    | root => exact .inl (.root _ _)
    | inner hn => exact .inl (.inner hn)
    | behind hns =>
      rcases ih hns with hfront | ⟨q, rfl, hback⟩
      · exact .inl (.behind hfront)
      · exact .inr ⟨q, by rw [sizeList, Nat.add_assoc], hback⟩

/-- The trees of the nodes below a node are parts of its own. -/
theorem trans {q : Nat} {rest : List Step} (h : Stands ns p path n)
    (hm : Stands n.children q rest m) : Stands ns (p + 1 + q) (path ++ rest) m := by
  induction h with
  | root n ns =>
    rw [Nat.zero_add, Nat.add_comm]
    exact .inner hm
  | @inner _ _ _ p _ _ ih =>
    rw [Nat.add_right_comm p 1 1, Nat.add_right_comm (p + 1) 1 q]
    exact .inner (ih hm)
  | behind _ ih =>
    rw [Nat.add_assoc, Nat.add_assoc, ← Nat.add_assoc _ 1 q]
    exact .behind (ih hm)

/-- A node that stands somewhere has an address in one of the trees. -/
theorem exists_address (h : Stands ns p path m) :
    ∃ i n a, ns[i]? = some n ∧ n.at? a = some m ∧ p = sizeList (ns.take i) + n.offset a ∧
      path.map some = a.inits.map fun b => (n.at? b).map Node.step := by
  induction h with
  | root n ns => exact ⟨0, n, [], rfl, rfl, by simp [sizeList], rfl⟩
  | @inner n m ns p path _ ih =>
    obtain ⟨i, c, a, hc, hm, rfl, hpath⟩ := ih
    refine ⟨0, n, i :: a, rfl, at?_cons_eq_some_iff.mpr ⟨c, hc, hm⟩, ?_, ?_⟩
    · rw [offset_cons hc, List.take_zero, sizeList]
      omega
    · simp [hpath, at?, hc]
  | @behind n m ns p path _ ih =>
    obtain ⟨i, c, a, hc, hm, rfl, hpath⟩ := ih
    refine ⟨i + 1, c, a, hc, hm, ?_, hpath⟩
    rw [List.take_succ_cons, sizeList, Nat.add_assoc]

/-- In a single tree the position of a node is the offset of its address. -/
theorem exists_offset_eq (h : Stands [root] p path m) :
    ∃ a, root.at? a = some m ∧ root.offset a = p ∧
      path.map some = a.inits.map fun b => (root.at? b).map Node.step := by
  obtain ⟨i, n, a, hn, hm, hp, hpath⟩ := h.exists_address
  obtain ⟨hi, rfl⟩ := List.getElem?_eq_some_iff.mp hn
  obtain rfl : i = 0 := Nat.lt_one_iff.mp hi
  refine ⟨a, hm, ?_, hpath⟩
  rw [hp, List.take_zero, sizeList, Nat.zero_add]
  rfl

/-! ### What a snapshot gives -/

open Snapshot

theorem entry?_eq (h : Stands [root] p path m) :
    ∃ e, entry? (ofTree root) p = some e ∧ e.step = m.step ∧ e.frame = m.frame ∧
      e.hittable = m.hittable := by
  obtain ⟨a, hm, rfl, -⟩ := h.exists_offset_eq
  exact ⟨_, entry?_offset hm, rfl, rfl, rfl⟩

theorem stop_eq (h : Stands [root] p path m) : (ofTree root).stop p = p + m.size := by
  obtain ⟨a, hm, rfl, -⟩ := h.exists_offset_eq
  exact stop_offset hm

theorem path_eq (h : Stands [root] p path m) : (ofTree root).path p = path := by
  obtain ⟨a, hm, rfl, hpath⟩ := h.exists_offset_eq
  have hinjective : Function.Injective (some : Step → Option Step) := fun _ _ => Option.some.inj
  apply List.map_injective_iff.mpr hinjective
  rw [hpath]
  exact trail_offset hm (length_lt_size hm)

end Stands

/-- **At each position stands a node.** -/
theorem exists_stands (h : p < sizeList ns) : ∃ path m, Stands ns p path m := by
  induction p using Nat.strongRecOn generalizing ns with
  | ind p ih =>
    cases ns with
    | nil =>
      rw [sizeList] at h
      omega
    | cons n ns =>
      have hsize := size_eq n
      rw [sizeList] at h
      -- the node is the first root, or in its tree, or in a later tree
      rcases Nat.eq_zero_or_pos p with rfl | hpos
      · exact ⟨_, n, .root n ns⟩
      · rcases Nat.lt_or_ge p n.size with hlt | hge
        · have hin : p - 1 < sizeList n.children := by omega
          obtain ⟨path, m, hm⟩ := ih (p - 1) (by omega) hin
          refine ⟨n.step :: path, m, ?_⟩
          rw [show p = p - 1 + 1 by omega]
          exact .inner hm
        · have hbehind : p - n.size < sizeList ns := by omega
          obtain ⟨path, m, hm⟩ := ih (p - n.size) (by omega) hbehind
          refine ⟨path, m, ?_⟩
          rw [show p = n.size + (p - n.size) by omega]
          exact .behind hm

/-- At each position of the snapshot of a tree stands a node of the tree. -/
theorem exists_stands_ofTree (h : p < (Snapshot.ofTree root).size) :
    ∃ path m, Stands [root] p path m := by
  apply exists_stands
  rw [Snapshot.size_ofTree] at h
  rw [sizeList_singleton]
  exact h

end Node

namespace Snapshot

open Node

/-- From a position on a snapshot lists some trees: for each of their nodes it has the step, and
where the subtree stops. -/
def Lists (s : Snapshot) (p : Nat) (ns : List Node) : Prop :=
  ∀ q path m, Stands ns q path m →
    (∃ e, s.entry? (p + q) = some e ∧ e.step = m.step) ∧ s.stop (p + q) = p + q + m.size

/-- **The snapshot of a tree lists it.** -/
theorem lists_ofTree (root : Node) : (ofTree root).Lists 0 [root] := by
  intro q path m h
  obtain ⟨e, he, hstep, -⟩ := h.entry?_eq
  rw [Nat.zero_add]
  exact ⟨⟨e, he, hstep⟩, h.stop_eq⟩

end Snapshot

end ScreenPages
