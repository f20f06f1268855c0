import Mathlib.Order.Monotone.Basic
import ScreenPages.Proofs.Standing

/-!
# Inserting nodes

A tree is put among siblings at some place of another, perhaps around a run of them.  All
nodes that were there before are still there, in the same order: those in front keep their
positions, and the others move up by the number of the new nodes.  A node that was below
another still is, and no other is.  To the path of a node steps are added only if the new tree
was put around it.

## Main definitions

* `Node.Replaced` — one tree takes the place of some siblings.
* `shift` — where the positions go.
* `Node.Around` — a tree goes around a run of siblings, or around none.
* `Node.Widened` — steps are added to a path above its end.
* `Snapshot.Embeds` — one snapshot holds the nodes of another in the same order.

## Main results

* `Node.Replaced.exists_stands` — where a node stands after an insertion.
* `Node.Replaced.stands_new` — what stands between the old nodes.
* `Snapshot.embeds_of_replaced`, `Snapshot.path_of_replaced` — the snapshots before and after.
-/

namespace ScreenPages

/-- Where a position goes when `k` new ones come in at `p`. -/
def shift (p k q : Nat) : Nat := if q < p then q else q + k

section Shift

variable {p k q r : Nat}

theorem shift_of_lt (h : q < p) : shift p k q = q := if_pos h

theorem shift_of_le (h : p ≤ q) : shift p k q = q + k := if_neg (Nat.not_lt.mpr h)

theorem strictMono_shift (p k : Nat) : StrictMono (shift p k) := by
  intro q r h
  unfold shift
  split <;> split <;> omega

theorem shift_add (n p k q : Nat) : shift (n + p) k (n + q) = n + shift p k q := by
  unfold shift
  split <;> split <;> omega

theorem shift_succ (p k q : Nat) : shift (p + 1) k (q + 1) = shift p k q + 1 := by
  have h := shift_add 1 p k q
  rw [Nat.add_comm 1, Nat.add_comm 1, Nat.add_comm 1] at h
  exact h

theorem shift_lt_add_iff (h : p ≤ r) : shift p k q < r + k ↔ q < r := by
  unfold shift
  split <;> omega

/-- The positions that are not reached are the new ones. -/
theorem exists_shift_eq_or (p k r : Nat) : (∃ q, shift p k q = r) ∨ p ≤ r ∧ r < p + k := by
  rcases Nat.lt_or_ge r p with hlt | hge
  · exact .inl ⟨r, shift_of_lt hlt⟩
  · rcases Nat.lt_or_ge r (p + k) with hnew | hold
    · exact .inr ⟨hge, hnew⟩
    · exact .inl ⟨r - k, by rw [shift_of_le (by omega)]; omega⟩

end Shift

namespace Node

/-! ### One tree in the place of some siblings -/

/-- Among some trees, or among the children of one of their nodes, the tree `u` takes the place
of the run `run` of siblings, and then stands at a position. -/
inductive Replaced (run : List Node) (u : Node) : Nat → List Node → List Node → Prop
  | here (ns : List Node) : Replaced run u 0 (run ++ ns) (u :: ns)
  | inner {n : Node} {ns ms : List Node} {p : Nat} (h : Replaced run u p n.children ms) :
      Replaced run u (p + 1) (n :: ns) ({ n with children := ms } :: ns)
  | behind {n : Node} {ns ms : List Node} {p : Nat} (h : Replaced run u p ns ms) :
      Replaced run u (n.size + p) (n :: ns) (n :: ms)

/-- A tree goes around a run of siblings: it has the nodes of the run behind `k` nodes of its
own, and the path to each is longer by the same steps. -/
structure Around (run : List Node) (u : Node) (k : Nat) (extra : List Step) : Prop where
  size : u.size = sizeList run + k
  stands : ∀ q path m, Stands run q path m → Stands [u] (q + k) (extra ++ path) m

/-- A tree by itself goes around no run. -/
theorem around_nil (u : Node) : Around [] u u.size [] where
  size := by rw [sizeList, Nat.zero_add]
  stands := by
    intro q path m h
    cases h

/-- A node goes around its children. -/
theorem around_children (u : Node) : Around u.children u 1 [u.step] where
  size := by rw [size_eq, Nat.add_comm]
  stands _ _ _ h := .inner h

/-- Steps are added to a path, if at all, in one place above its end. -/
inductive Widened (extra : List Step) : List Step → List Step → Prop
  | same (path : List Step) : Widened extra path path
  | here {path : List Step} (h : path ≠ []) : Widened extra path (extra ++ path)
  | cons (s : Step) {path path' : List Step} (h : Widened extra path path') :
      Widened extra (s :: path) (s :: path')

/-- No steps are added to a path. -/
theorem Widened.eq_of_nil {path path' : List Step} (h : Widened [] path path') : path' = path := by
  induction h with
  | same => rfl
  | here => rfl
  | cons s _ ih => rw [ih]

/-- Steps are added to a path, if at all, between the root and its end. -/
def WidenedBelow (extra path path' : List Step) : Prop :=
  ∃ s rest rest', path = s :: rest ∧ path' = s :: rest' ∧ Widened extra rest rest'

/-- A path that ends at a node can be left as it is. -/
theorem WidenedBelow.same {extra path : List Step} (h : path ≠ []) :
    WidenedBelow extra path path := by
  cases path with
  | nil => exact absurd rfl h
  | cons s rest => exact ⟨s, rest, rest, rfl, rfl, .same rest⟩

theorem WidenedBelow.widened {extra path path' : List Step} (h : WidenedBelow extra path path') :
    Widened extra path path' := by
  obtain ⟨s, rest, rest', rfl, rfl, h⟩ := h
  exact .cons s h

/-- A node has the attributes of another; what is below may be different. -/
structure Alike (n m : Node) : Prop where
  step : m.step = n.step
  frame : m.frame = n.frame
  hittable : m.hittable = n.hittable

theorem Alike.refl (n : Node) : Alike n n := ⟨rfl, rfl, rfl⟩

/-- A node that stood at a position is found again where the position goes: it looks the same,
its path is related to the one before, and the same nodes are below it as far as they were
there before. -/
def Kept (R : List Step → List Step → Prop) (p k : Nat) (ns ms : List Node) : Prop :=
  ∀ q path m, Stands ns q path m → ∃ path' m', Stands ms (shift p k q) path' m' ∧
    Alike m m' ∧ R path path' ∧ ∀ r, r < q + m.size ↔ shift p k r < shift p k q + m'.size

variable {n u m : Node} {run ns ms : List Node} {p k : Nat} {extra : List Step}

/-- A tree that takes the place of a run of siblings changes the number of nodes by that of
the new ones. -/
theorem Replaced.sizeList_eq (h : Replaced run u p ns ms) (hu : u.size = sizeList run + k) :
    sizeList ms = sizeList ns + k := by
  induction h with
  | here ns =>
    rw [sizeList, sizeList_append]
    omega
  | @inner n ns ms p _ ih =>
    rw [sizeList, sizeList, size_eq n, size_eq, ih]
    omega
  | behind _ ih => rw [sizeList, sizeList, ih, Nat.add_assoc]

theorem Replaced.le_sizeList (h : Replaced run u p ns ms) : p ≤ sizeList ns := by
  induction h with
  | here ns => exact Nat.zero_le _
  | @inner n ns ms p _ ih =>
    rw [sizeList, size_eq]
    omega
  | behind _ ih => rw [sizeList]; omega

/-- The new tree stands at its position. -/
theorem Replaced.stands (h : Replaced run u p ns ms) : ∃ path, Stands ms p path u := by
  induction h with
  | here ns => exact ⟨_, .root u ns⟩
  | inner _ ih =>
    obtain ⟨path, hu⟩ := ih
    exact ⟨_, .inner hu⟩
  | behind _ ih =>
    obtain ⟨path, hu⟩ := ih
    exact ⟨path, .behind hu⟩

/-- If the children of a node are kept, so is the node and all that stands beside it. -/
theorem Kept.inner (h : Kept (Widened extra) p k n.children ms)
    (hsize : sizeList ms = sizeList n.children + k) (hp : p ≤ sizeList n.children)
    (ns : List Node) :
    Kept (WidenedBelow extra) (p + 1) k (n :: ns) ({ n with children := ms } :: ns) := by
  have hn := size_eq n
  have hm : size { n with children := ms } = n.size + k := by
    rw [size_eq, hn, hsize, Nat.add_assoc]
  intro q path x hq
  cases hq with
  | root =>
    refine ⟨_, { n with children := ms }, ?_, ⟨rfl, rfl, rfl⟩, .same (List.cons_ne_nil _ _), ?_⟩
    · rw [shift_of_lt (Nat.succ_pos p)]
      exact .root { n with children := ms } ns
    · intro r
      rw [shift_of_lt (Nat.succ_pos p), Nat.zero_add, Nat.zero_add, hm,
        shift_lt_add_iff (by omega)]
  | inner hx =>
    obtain ⟨path', x', hx', halike, hpath, hscope⟩ := h _ _ _ hx
    refine ⟨_, x', ?_, halike, ⟨_, _, path', rfl, rfl, hpath⟩, ?_⟩
    · rw [shift_succ]
      exact .inner hx'
    · intro r
      rw [shift_succ]
      -- the root of the tree itself is in front of all that is below it
      cases r with
      | zero =>
        rw [shift_of_lt (Nat.succ_pos p)]
        omega
      | succ r =>
        rw [shift_succ]
        have hr := hscope r
        omega
  | @behind _ _ _ q _ hx =>
    refine ⟨path, x, ?_, .refl x, .same hx.path_ne_nil, ?_⟩
    · rw [shift_of_le (by omega),
        show n.size + q + k = size { n with children := ms } + q by omega]
      exact .behind hx
    · intro r
      have hpos := size_pos x
      rw [shift_of_le (q := n.size + q) (by omega), Nat.add_right_comm _ k,
        shift_lt_add_iff (by omega)]

/-- **Where a node stands after an insertion.** -/
theorem Replaced.exists_stands (h : Replaced run u p ns ms) (hu : Around run u k extra) :
    Kept (Widened extra) p k ns ms := by
  induction h with
  | here ns =>
    intro q path x hq
    have hpos := size_pos x
    rw [shift_of_le (Nat.zero_le q)]
    rcases hq.of_append with hx | ⟨q, rfl, hx⟩
    · -- the node is in the run that the new tree goes around
      refine ⟨_, x, (hu.stands _ _ _ hx).append_right ns, .refl x, .here hx.path_ne_nil, ?_⟩
      intro r
      rw [Nat.add_right_comm, shift_lt_add_iff (Nat.zero_le _)]
    · refine ⟨path, x, ?_, .refl x, .same path, ?_⟩
      · rw [show sizeList run + q + k = u.size + q by rw [hu.size]; omega]
        exact .behind hx
      · intro r
        rw [Nat.add_right_comm _ k, shift_lt_add_iff (Nat.zero_le _)]
  | inner h ih =>
    intro q path x hq
    obtain ⟨path', x', hx', halike, hpath, hscope⟩ :=
      ih.inner (h.sizeList_eq hu.size) h.le_sizeList _ q path x hq
    exact ⟨path', x', hx', halike, hpath.widened, hscope⟩
  | @behind n ns ms p h ih =>
    have hn := size_eq n
    intro q path x hq
    have hpos := size_pos x
    cases hq with
    | root =>
      refine ⟨_, n, ?_, .refl n, .same _, ?_⟩
      · rw [shift_of_lt (by omega)]
        exact .root n ms
      · intro r
        rw [shift_of_lt (q := 0) (by omega)]
        unfold shift
        split <;> omega
    | @inner _ _ _ q path hx =>
      have hle := hx.add_size_le
      refine ⟨_, x, ?_, .refl x, .same _, ?_⟩
      · rw [shift_of_lt (by omega)]
        exact .inner hx
      · intro r
        rw [shift_of_lt (q := q + 1) (by omega)]
        unfold shift
        split <;> omega
    | @behind _ _ _ q _ hx =>
      obtain ⟨path', x', hx', halike, hpath, hscope⟩ := ih q path x hx
      refine ⟨path', x', ?_, halike, hpath, ?_⟩
      · rw [shift_add]
        exact .behind hx'
      · intro r
        rw [shift_add]
        -- the tree in front is in front of all that stands behind it
        rcases Nat.lt_or_ge r n.size with hlt | hge
        · rw [shift_of_lt (by omega)]
          omega
        · obtain ⟨r, rfl⟩ := Nat.exists_eq_add_of_le hge
          rw [shift_add]
          have hr := hscope r
          omega

/-- **What stands between the old nodes** is in the new tree. -/
theorem Replaced.stands_new (h : Replaced run u p ns ms) {r : Nat} {path : List Step}
    (hr : Stands ms r path m) (hlow : p ≤ r) (hhigh : r < p + u.size) :
    ∃ path', Stands [u] (r - p) path' m := by
  induction h generalizing r path with
  | here ns =>
    rw [← List.singleton_append] at hr
    rcases hr.of_append with hm | ⟨q, rfl, -⟩
    · exact ⟨path, hm⟩
    · rw [sizeList_singleton] at hhigh
      omega
  | @inner n ns ms p h ih =>
    obtain ⟨_, hu⟩ := h.stands
    have hle := hu.add_size_le
    have hn : size { n with children := ms } = 1 + sizeList ms := size_eq _
    cases hr with
    | root => omega
    | inner hm =>
      rw [Nat.add_sub_add_right]
      exact ih hm (by omega) (by omega)
    | behind hm => omega
  | @behind n ns ms p h ih =>
    have hn := size_eq n
    cases hr with
    | root => omega
    | inner hm =>
      have hlt := hm.lt
      omega
    | behind hm =>
      rw [Nat.add_sub_add_left]
      exact ih hm (by omega) (by omega)

end Node

namespace Snapshot

open Node

/-! ### The snapshots before and after -/

/-- A snapshot holds all nodes of another one in the same order, each with the same nodes of
that one below it. -/
structure Embeds (s t : Snapshot) (f : Nat → Nat) : Prop where
  strictMono : StrictMono f
  lt_size : ∀ q, f q < t.size ↔ q < s.size
  /-- A node looks the same. -/
  entry : ∀ q < s.size, ∃ e e', s.entry? q = some e ∧ t.entry? (f q) = some e' ∧
    e'.step = e.step ∧ e'.frame = e.frame ∧ e'.hittable = e.hittable
  lt_stop : ∀ q < s.size, ∀ r, f r < t.stop (f q) ↔ r < s.stop q

variable {s t t' : Snapshot} {f g : Nat → Nat}

theorem Embeds.refl (s : Snapshot) : Embeds s s id where
  strictMono := strictMono_id
  lt_size _ := Iff.rfl
  entry q hq :=
    have hentry : s.entry? q = some s.entries[q] := Array.getElem?_eq_getElem hq
    ⟨_, _, hentry, hentry, rfl, rfl, rfl⟩
  lt_stop _ _ _ := Iff.rfl

theorem Embeds.trans (h : Embeds s t f) (h' : Embeds t t' g) : Embeds s t' (g ∘ f) where
  strictMono := h'.strictMono.comp h.strictMono
  lt_size q := (h'.lt_size (f q)).trans (h.lt_size q)
  entry q hq := by
    obtain ⟨e₁, e₂, h₁, h₂, hstep, hframe, hhittable⟩ := h.entry q hq
    obtain ⟨e₂', e₃, h₂', h₃, hstep', hframe', hhittable'⟩ :=
      h'.entry (f q) ((h.lt_size q).mpr hq)
    rw [h₂] at h₂'
    cases h₂'
    exact ⟨e₁, e₃, h₁, h₃, hstep'.trans hstep, hframe'.trans hframe, hhittable'.trans hhittable⟩
  lt_stop q hq r := (h'.lt_stop (f q) ((h.lt_size q).mpr hq) (f r)).trans (h.lt_stop q hq r)

variable {n u : Node} {run ms : List Node} {p k : Nat} {extra : List Step}

/-- A tree that changes below its root keeps its nodes. -/
theorem kept_of_replaced (h : Replaced run u p n.children ms) (hu : Around run u k extra) :
    Kept (WidenedBelow extra) (p + 1) k [n] [{ n with children := ms }] :=
  (h.exists_stands hu).inner (h.sizeList_eq hu.size) h.le_sizeList []

theorem size_ofTree_of_replaced (h : Replaced run u p n.children ms)
    (hu : Around run u k extra) :
    (ofTree { n with children := ms }).size = (ofTree n).size + k := by
  rw [size_ofTree, size_ofTree, size_eq, size_eq n, h.sizeList_eq hu.size]
  omega

/-- **After an insertion a snapshot holds all nodes that it held before.** -/
theorem embeds_of_replaced (h : Replaced run u p n.children ms) (hu : Around run u k extra) :
    Embeds (ofTree n) (ofTree { n with children := ms }) (shift (p + 1) k) where
  strictMono := strictMono_shift (p + 1) k
  lt_size q := by
    have hp := h.le_sizeList
    have hn := size_eq n
    rw [size_ofTree_of_replaced h hu, shift_lt_add_iff]
    rw [size_ofTree]
    omega
  entry q hq := by
    obtain ⟨path, m, hm⟩ := exists_stands_ofTree hq
    obtain ⟨path', m', hm', halike, -, -⟩ := kept_of_replaced h hu q path m hm
    obtain ⟨e, he, hstep, hframe, hhittable⟩ := hm.entry?_eq
    obtain ⟨e', he', hstep', hframe', hhittable'⟩ := hm'.entry?_eq
    refine ⟨e, e', he, he', ?_, ?_, ?_⟩
    · rw [hstep, hstep', halike.step]
    · rw [hframe, hframe', halike.frame]
    · rw [hhittable, hhittable', halike.hittable]
  lt_stop q hq r := by
    obtain ⟨path, m, hm⟩ := exists_stands_ofTree hq
    obtain ⟨path', m', hm', -, -, hscope⟩ := kept_of_replaced h hu q path m hm
    rw [hm.stop_eq, hm'.stop_eq]
    exact (hscope r).symm

/-- **After an insertion the path of a node has new steps, if any, between the root and its
end.** -/
theorem path_of_replaced (h : Replaced run u p n.children ms) (hu : Around run u k extra) {q : Nat}
    (hq : q < (ofTree n).size) :
    WidenedBelow extra ((ofTree n).path q)
      ((ofTree { n with children := ms }).path (shift (p + 1) k q)) := by
  obtain ⟨path, m, hm⟩ := exists_stands_ofTree hq
  obtain ⟨path', m', hm', -, hpath, -⟩ := kept_of_replaced h hu q path m hm
  rw [hm.path_eq, hm'.path_eq]
  exact hpath

/-- What is new in a snapshot after an insertion is a node of the new tree. -/
theorem exists_stands_of_replaced (h : Replaced run u p n.children ms) {r : Nat}
    {path : List Step} {m : Node} (hr : Stands [{ n with children := ms }] r path m)
    (hlow : p + 1 ≤ r) (hhigh : r < p + 1 + u.size) : ∃ path', Stands [u] (r - (p + 1)) path' m :=
  (Replaced.inner h).stands_new hr hlow hhigh

end Snapshot

end ScreenPages
