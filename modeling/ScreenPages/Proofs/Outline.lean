import ScreenPages.Proofs.Address
import ScreenPages.Proofs.Described

/-!
# The outline of a screen

A description keeps some of the nodes of a screen and leaves out the others: it keeps nodes of
eight kinds, unless they are below a text, a button or a text field.  The elements of the
description are these nodes in document order, each below the nearest one of them that is above
its node, at whatever depth, and at the top if there is none.  So the description is the outline of
the screen: nothing that it keeps is lost, doubled or moved.

## Main definitions

* `Node.Keeps` — the node at an address is kept.
* `Node.nearest?` — the nearest node above another that is kept.
* `Node.Carries` — an element carries what identifies a node, and nothing else.
* `Node.Source`, `Node.Sourced` — the nodes that elements are made from, nested as they are.
* `Node.Outlined` — elements are the outline of a tree.

## Main results

* `Node.nearest?_concat` — what is nearest to a child of a node.
* `Node.exists_sourced` — the description of a subtree.
* `Node.describe_outlined` — a description is the outline of the tree.
-/

namespace ScreenPages.Node

variable {root n : Node} {a b : List Nat} {i : Nat}

/-! ### The nodes that are kept -/

/-- The kinds of nodes that hide from a description what is below them. -/
def closedKinds : List Kind := [.staticText, .button, .textField, .secureTextField]

/-- The kinds of nodes that a description keeps. -/
def keptKinds : List Kind := closedKinds ++ [.navigationBar, .cell, .tabBar, .collectionView]

/-- The addresses of the nodes above a node, from the root down. -/
def above (a : List Nat) : List (List Nat) := a.inits.dropLast

/-- No node above the one at an address hides it. -/
def Exposed (root : Node) (a : List Nat) : Prop :=
  ∀ b ∈ above a, ∀ m ∈ root.at? b, m.step.kind ∉ closedKinds

/-- A description keeps the node at an address: it is of a kind that is kept, and not hidden. -/
def Keeps (root : Node) (a : List Nat) : Prop :=
  (∃ n ∈ root.at? a, n.step.kind ∈ keptKinds) ∧ root.Exposed a

instance (root : Node) (a : List Nat) : Decidable (root.Exposed a) :=
  inferInstanceAs (Decidable (∀ b ∈ above a, ∀ m ∈ root.at? b, m.step.kind ∉ closedKinds))

instance (root : Node) (a : List Nat) : Decidable (root.Keeps a) :=
  inferInstanceAs (Decidable ((∃ n ∈ root.at? a, n.step.kind ∈ keptKinds) ∧ root.Exposed a))

/-- The address of the nearest node above another that is kept. -/
def nearest? (root : Node) (a : List Nat) : Option (List Nat) :=
  ((above a).filter fun b => root.Keeps b).getLast?

@[simp] theorem above_nil : above [] = [] := rfl

/-- Above a child of a node are the node and what is above it. -/
@[simp] theorem above_concat (a : List Nat) (i : Nat) : above (a ++ [i]) = above a ++ [a] := by
  have hlast : a.inits = above a ++ [a] := by
    unfold above
    induction a using List.reverseRecOn with
    | nil => rfl
    | append_singleton a i _ => simp [List.inits_append]
  rw [above, List.inits_append, hlast]
  simp

/-- The addresses above another are those at its front. -/
theorem mem_above_iff : b ∈ above a ↔ b <+: a ∧ b ≠ a := by
  induction a using List.reverseRecOn with
  | nil => simp
  | append_singleton a i ih =>
    rw [above_concat, List.mem_append, List.mem_singleton, ih, List.prefix_concat_iff]
    constructor
    · rintro (⟨hfront, hne⟩ | rfl)
      · refine ⟨.inr hfront, ?_⟩
        rintro rfl
        have hlength := hfront.length_le
        rw [List.length_append, List.length_singleton] at hlength
        omega
      · simp
    · rintro ⟨rfl | hfront, hne⟩
      · exact absurd rfl hne
      · by_cases hb : b = a
        · exact .inr hb
        · exact .inl ⟨hfront, hb⟩

/-- A child of a node is hidden if the node is, or if the node itself hides it. -/
theorem exposed_concat (h : root.at? a = some n) (i : Nat) :
    root.Exposed (a ++ [i]) ↔ root.Exposed a ∧ n.step.kind ∉ closedKinds := by
  simp [Exposed, h, or_imp, forall_and]

/-- What is below a node that hides it is hidden. -/
theorem not_exposed_append (h : root.at? a = some n) (hclosed : n.step.kind ∈ closedKinds)
    (hb : b ≠ []) : ¬ root.Exposed (a ++ b) := by
  intro hexposed
  refine hexposed a (mem_above_iff.mpr ⟨List.prefix_append a b, ?_⟩) n h hclosed
  simpa using hb

/-- **What is nearest to a child of a node** is the node if it is kept, and otherwise what is
nearest to the node. -/
theorem nearest?_concat (root : Node) (a : List Nat) (i : Nat) :
    root.nearest? (a ++ [i]) = if root.Keeps a then some a else root.nearest? a := by
  by_cases h : root.Keeps a
  · simp [nearest?, h]
  · simp [nearest?, h]

/-- If nothing is nearest to a node, no node above it is kept. -/
theorem not_keeps_of_nearest?_eq_none (h : root.nearest? a = none) :
    ∀ b ∈ above a, ¬ root.Keeps b := by
  simpa [nearest?] using h

/-- What is nearest to a node is above it and is kept. -/
theorem mem_above_of_nearest?_eq_some (h : root.nearest? a = some b) :
    b ∈ above a ∧ root.Keeps b := by
  simpa using List.mem_of_getLast? h

/-- Any other kept node above a node is above what is nearest to it. -/
theorem prefix_of_nearest?_eq_some {c : List Nat} (h : root.nearest? a = some c)
    (hb : b ∈ above a) (hkeeps : root.Keeps b) : b <+: c := by
  induction a using List.reverseRecOn with
  | nil => cases hb
  | append_singleton a i ih =>
    rw [nearest?_concat] at h
    rw [above_concat, List.mem_append, List.mem_singleton] at hb
    by_cases ha : root.Keeps a
    · rw [if_pos ha, Option.some.injEq] at h
      subst h
      rcases hb with hb | rfl
      · exact (mem_above_iff.mp hb).1
      · exact List.prefix_rfl
    · rw [if_neg ha] at h
      rcases hb with hb | rfl
      · exact ih h hb
      · exact absurd hkeeps ha

theorem Keeps.kind_mem (h : root.Keeps a) (hn : root.at? a = some n) :
    n.step.kind ∈ keptKinds := by
  obtain ⟨⟨m, hm, hkind⟩, -⟩ := h
  obtain rfl : n = m := Option.some.inj (hn.symm.trans hm)
  exact hkind

/-- What hides a node hides all that is below it, so of a node that is kept all above that are of
a kind that is kept are kept. -/
theorem Keeps.of_mem_above (h : root.Keeps a) (hb : b ∈ above a) (hn : root.at? b = some n)
    (hkind : n.step.kind ∈ keptKinds) : root.Keeps b := by
  refine ⟨⟨n, hn, hkind⟩, ?_⟩
  intro c hc
  apply h.2 c
  obtain ⟨hba, hne⟩ := mem_above_iff.mp hb
  obtain ⟨hcb, -⟩ := mem_above_iff.mp hc
  refine mem_above_iff.mpr ⟨hcb.trans hba, ?_⟩
  rintro rfl
  exact hne (hba.eq_of_length_le hcb.length_le)

/-! ### What an element carries -/

/-- An element carries what identifies a node, and nothing else: the kind, the identifier unless
the node holds tabs or a collection, the label of a static text and, if there is one, of a button,
and the value of a text field if there is one. -/
structure Carries (s : Step) (e : Element) : Prop where
  dynamic : e.identity = .dynamic
  kind : e.kind = s.kind
  identifier : e.identifier
    = if s.kind ∈ [.tabBar, .collectionView] then none else nonempty? s.identifier
  label : e.label
    = if s.kind = .staticText then some s.label
      else if s.kind = .button then nonempty? s.label else none
  value : e.value
    = if s.kind ∈ [.textField, .secureTextField] then s.value.bind nonempty? else none

/-- A node that is kept by itself hides what is below it. -/
theorem carries_of_leaf {s : Step} {e : Element} (h : share s = .leaf e) :
    Carries s e ∧ s.kind ∈ closedKinds ∧ e.children = [] := by
  obtain ⟨kind, identifier, label, value⟩ := s
  cases kind <;> simp only [share, reduceCtorEq, Share.leaf.injEq] at h
  all_goals
    subst h
    exact ⟨⟨rfl, rfl, rfl, rfl, rfl⟩, by simp [closedKinds], rfl⟩

/-- A container is kept and hides nothing. -/
theorem carries_of_container {s : Step} {e : Element} (h : share s = .container e)
    (es : List Element) :
    Carries s { e with children := es } ∧ s.kind ∈ keptKinds ∧ s.kind ∉ closedKinds := by
  obtain ⟨kind, identifier, label, value⟩ := s
  cases kind <;> simp only [share, reduceCtorEq, Share.container.injEq] at h
  all_goals
    subst h
    exact ⟨⟨rfl, rfl, rfl, rfl, rfl⟩, by simp [keptKinds], by simp [closedKinds]⟩

/-- A node of which only what is below it is described is not of a kind that is kept. -/
theorem not_mem_keptKinds_of_below {s : Step} (h : share s = .below) : s.kind ∉ keptKinds := by
  obtain ⟨kind, identifier, label, value⟩ := s
  cases kind <;> simp only [share, reduceCtorEq] at h
  all_goals simp [keptKinds, closedKinds]

/-! ### The nodes that elements are made from -/

/-- The address of the node that an element is made from, with those for the elements below. -/
structure Source where
  address : List Nat
  children : List Source
  deriving Repr, Inhabited

namespace Source

mutual

/-- A source and those below it in document order. -/
def flatten : Source → List Source
  | x@⟨_, children⟩ => x :: flattenList children

/-- Several sources and those below them in document order. -/
def flattenList : List Source → List Source
  | [] => []
  | x :: xs => flatten x ++ flattenList xs

end

theorem flatten_eq (x : Source) : x.flatten = x :: flattenList x.children := by
  cases x; rw [flatten]

@[simp] theorem flattenList_nil : flattenList [] = [] := by rw [flattenList]

@[simp] theorem flattenList_cons (x : Source) (xs : List Source) :
    flattenList (x :: xs) = x :: (flattenList x.children ++ flattenList xs) := by
  rw [flattenList, flatten_eq, List.cons_append]

@[simp] theorem flattenList_append (xs ys : List Source) :
    flattenList (xs ++ ys) = flattenList xs ++ flattenList ys := by
  induction xs with
  | nil => simp
  | cons x xs ih => simp [ih]

end Source

/-- Elements are made from nodes of a tree.  Each carries what identifies its node, the nearest
node above which is that of the element above, and `near` for the elements at the top. -/
inductive Sourced (root : Node) : Option (List Nat) → List Element → List Source → Prop
  | nil {near : Option (List Nat)} : Sourced root near [] []
  | cons {near : Option (List Nat)} {a : List Nat} {n : Node} {e : Element} {es : List Element}
      {below xs : List Source} (node : root.at? a = some n) (carries : Carries n.step e)
      (nearest : root.nearest? a = near) (children : Sourced root (some a) e.children below)
      (rest : Sourced root near es xs) : Sourced root near (e :: es) (⟨a, below⟩ :: xs)

namespace Sourced

variable {near : Option (List Nat)} {es fs : List Element} {xs ys : List Source}

/-- The first of some elements and the source that it is made from. -/
theorem exists_of_cons {e : Element} (h : Sourced root near (e :: es) xs) :
    ∃ x ys n, xs = x :: ys ∧ root.at? x.address = some n ∧ Carries n.step e ∧
      root.nearest? x.address = near ∧ Sourced root (some x.address) e.children x.children ∧
      Sourced root near es ys := by
  cases h with
  | cons node carries nearest children rest =>
    exact ⟨_, _, _, rfl, node, carries, nearest, children, rest⟩

theorem append (h : Sourced root near es xs) (h' : Sourced root near fs ys) :
    Sourced root near (es ++ fs) (xs ++ ys) := by
  induction h with
  | nil => exact h'
  | cons node carries nearest children _ _ ih => exact .cons node carries nearest children (ih h')

/-- The elements are those of the nodes, at every depth and in the same order. -/
theorem forall₂_flattenList (h : Sourced root near es xs) :
    List.Forall₂ (fun e x => ∃ n, root.at? x.address = some n ∧ Carries n.step e)
      (Element.flattenList es) (Source.flattenList xs) := by
  induction h with
  | nil => simp
  | cons node carries _ _ _ ih_children ih =>
    rw [Element.flattenList_cons, Source.flattenList_cons]
    exact .cons ⟨_, node, carries⟩ (List.rel_append ih_children ih)

/-- A source is at the top, or it is below another that is nearest to it. -/
theorem nearest_of_mem (h : Sourced root near es xs) :
    ∀ y ∈ Source.flattenList xs, (y ∈ xs ∧ root.nearest? y.address = near) ∨
      ∃ x ∈ Source.flattenList xs, y ∈ x.children ∧ root.nearest? y.address = some x.address := by
  induction h with
  | nil => simp
  | @cons near a n e es below xs node carries nearest children rest ih_children ih =>
    intro y hy
    rw [Source.flattenList_cons, List.mem_cons, List.mem_append] at hy
    simp only [Source.flattenList_cons, List.mem_cons, List.mem_append]
    rcases hy with rfl | hy | hy
    · exact .inl ⟨.inl rfl, nearest⟩
    · rcases ih_children y hy with ⟨hmem, hnear⟩ | ⟨x, hx, hmem, hnear⟩
      · exact .inr ⟨_, .inl rfl, hmem, hnear⟩
      · exact .inr ⟨x, .inr (.inl hx), hmem, hnear⟩
    · rcases ih y hy with ⟨hmem, hnear⟩ | ⟨x, hx, hmem, hnear⟩
      · exact .inl ⟨.inr hmem, hnear⟩
      · exact .inr ⟨x, .inr (.inr hx), hmem, hnear⟩

/-- What is nearest to a source at the top. -/
theorem nearest_eq (h : Sourced root near es xs) : ∀ x ∈ xs, root.nearest? x.address = near := by
  induction h with
  | nil => simp
  | cons _ _ nearest _ _ _ ih =>
    intro x hx
    rcases List.mem_cons.mp hx with rfl | hx
    · exact nearest
    · exact ih x hx

/-- What is nearest to a source below another is this one. -/
theorem nearest_eq_of_mem_children (h : Sourced root near es xs) :
    ∀ x ∈ Source.flattenList xs, ∀ y ∈ x.children,
      root.nearest? y.address = some x.address := by
  induction h with
  | nil => simp
  | cons _ _ _ children _ ih_children ih =>
    intro x hx
    rw [Source.flattenList_cons, List.mem_cons, List.mem_append] at hx
    rcases hx with rfl | hx | hx
    · exact children.nearest_eq
    · exact ih_children x hx
    · exact ih x hx

end Sourced

/-! ### The outline -/

/-- The addresses of the nodes below one that hides them are not kept. -/
theorem filter_addressesFrom_of_closed (h : root.at? a = some n)
    (hclosed : n.step.kind ∈ closedKinds) (i : Nat) (ns : List Node) :
    ((addressesFrom i ns).map (a ++ ·)).filter (fun b => root.Keeps b) = [] := by
  rw [List.filter_eq_nil_iff]
  intro b hb
  obtain ⟨c, hc, rfl⟩ := List.mem_map.mp hb
  obtain ⟨j, m, d, -, -, rfl⟩ := mem_addressesFrom_iff.mp hc
  simp only [decide_eq_true_eq]
  intro hkeeps
  exact not_exposed_append h hclosed (List.cons_ne_nil _ _) hkeeps.2

mutual

/-- **The description of a subtree** that is not hidden: its elements are made from the nodes of
the subtree that are kept, in document order. -/
theorem exists_sourced (root : Node) : (n : Node) → {a : List Nat} → root.at? a = some n →
    root.Exposed a →
    ∃ xs, Sourced root (root.nearest? a) (describe n) xs ∧
      (Source.flattenList xs).map Source.address
        = (n.addresses.map (a ++ ·)).filter fun b => root.Keeps b
  | ⟨step, frame, hittable, children⟩, a, hat, hexposed => by
    have hkeeps : root.Keeps a ↔ step.kind ∈ keptKinds := by
      simp [Keeps, hat, hexposed]
    have hbelow := exists_sourcedList root children (a := a) 0
      (fun j c hc => by rw [Nat.zero_add]; exact at?_concat hat hc)
    rw [describe, addresses, List.map_cons, List.append_nil]
    cases hshare : share step with
    | leaf e =>
      obtain ⟨hcarries, hclosed, hnone⟩ := carries_of_leaf hshare
      have hkept : root.Keeps a := hkeeps.mpr (List.mem_append_left _ hclosed)
      refine ⟨[⟨a, []⟩], ?_, ?_⟩
      · apply Sourced.cons hat hcarries rfl _ .nil
        rw [hnone]
        exact .nil
      · rw [List.filter_cons_of_pos (by simpa using hkept),
          filter_addressesFrom_of_closed hat hclosed]
        simp
    | container e =>
      obtain ⟨hcarries, hkind, hopen⟩ := carries_of_container hshare (describeList children)
      have hkept : root.Keeps a := hkeeps.mpr hkind
      obtain ⟨xs, hxs, haddresses⟩ := hbelow (fun j => (exposed_concat hat j).mpr ⟨hexposed, hopen⟩)
        (fun j => by rw [nearest?_concat, if_pos hkept])
      refine ⟨[⟨a, xs⟩], .cons hat hcarries rfl hxs .nil, ?_⟩
      rw [List.filter_cons_of_pos (by simpa using hkept), ← haddresses]
      simp
    | below =>
      have hkind := not_mem_keptKinds_of_below hshare
      have hopen : step.kind ∉ closedKinds := fun h => hkind (List.mem_append_left _ h)
      have hkept : ¬ root.Keeps a := fun h => hkind (hkeeps.mp h)
      obtain ⟨xs, hxs, haddresses⟩ := hbelow (fun j => (exposed_concat hat j).mpr ⟨hexposed, hopen⟩)
        (fun j => by rw [nearest?_concat, if_neg hkept])
      refine ⟨xs, hxs, ?_⟩
      rw [List.filter_cons_of_neg (by simpa using hkept), haddresses]

/-- The description of several subtrees side by side. -/
theorem exists_sourcedList (root : Node) : (ns : List Node) → {a : List Nat} → (i : Nat) →
    (∀ j c, ns[j]? = some c → root.at? (a ++ [i + j]) = some c) →
    (∀ j, root.Exposed (a ++ [j])) → {near : Option (List Nat)} →
    (∀ j, root.nearest? (a ++ [j]) = near) →
    ∃ xs, Sourced root near (describeList ns) xs ∧
      (Source.flattenList xs).map Source.address
        = ((addressesFrom i ns).map (a ++ ·)).filter fun b => root.Keeps b
  | [], a, i, _, _, near, _ => by
    refine ⟨[], ?_, by simp [addressesFrom]⟩
    rw [describeList]
    exact .nil
  | n :: ns, a, i, hat, hexposed, near, hnear => by
    obtain ⟨xs, hxs, haddresses⟩ := exists_sourced root n (hat 0 n rfl) (hexposed i)
    obtain ⟨ys, hys, haddresses'⟩ := exists_sourcedList root ns (i + 1)
      (fun j c hc => by rw [Nat.add_right_comm, Nat.add_assoc]; exact hat (j + 1) c hc)
      hexposed hnear
    rw [Nat.add_zero, hnear] at hxs
    refine ⟨xs ++ ys, ?_, ?_⟩
    · rw [describeList]
      exact hxs.append hys
    · rw [Source.flattenList_append, List.map_append, haddresses, haddresses', addressesFrom,
        List.map_append, List.filter_append, List.map_map]
      simp [Function.comp_def]

end

/-- Elements are the outline of a tree, made from these sources. -/
structure Outlined (root : Node) (es : List Element) (xs : List Source) : Prop where
  sourced : Sourced root none es xs
  /-- The elements in document order are the nodes that are kept in document order. -/
  inOrder : List.Forall₂ (fun e a => ∃ n, root.at? a = some n ∧ Carries n.step e)
    (Element.flattenList es) (root.addresses.filter fun a => root.Keeps a)
  kept : (Source.flattenList xs).map Source.address
    = root.addresses.filter fun a => root.Keeps a
  /-- At the top are those above which no node is kept. -/
  top : ∀ x ∈ Source.flattenList xs, (x ∈ xs ↔ root.nearest? x.address = none)
  /-- Any other is below the nearest one that is kept. -/
  parent : ∀ x ∈ Source.flattenList xs, ∀ y ∈ Source.flattenList xs,
    (y ∈ x.children ↔ root.nearest? y.address = some x.address)

/-- No node is the source of two elements. -/
theorem eq_of_address_eq {xs : List Source} (h : (Source.flattenList xs).map Source.address
      = root.addresses.filter fun a => root.Keeps a) {x y : Source}
    (hx : x ∈ Source.flattenList xs) (hy : y ∈ Source.flattenList xs)
    (heq : x.address = y.address) : x = y := by
  have hnodup : ((Source.flattenList xs).map Source.address).Nodup := by
    rw [h]
    exact ((pairwise_addresses root).imp ne_of_lt).filter _
  exact List.inj_on_of_nodup_map hnodup hx hy heq

/-- **Elements that are made from the kept nodes of a tree in order are its outline.** -/
theorem Sourced.outlined {es : List Element} {xs : List Source} (h : Sourced root none es xs)
    (hkept : (Source.flattenList xs).map Source.address
      = root.addresses.filter fun a => root.Keeps a) : Outlined root es xs := by
  refine ⟨h, ?_, hkept, ?_, ?_⟩
  · rw [← hkept, List.forall₂_map_right_iff]
    exact h.forall₂_flattenList
  · intro x hx
    constructor
    · exact h.nearest_eq x
    · intro hnone
      rcases h.nearest_of_mem x hx with ⟨hmem, -⟩ | ⟨y, -, -, hsome⟩
      · exact hmem
      · rw [hnone] at hsome
        cases hsome
  · intro x hx y hy
    constructor
    · exact h.nearest_eq_of_mem_children x hx y
    · intro hsome
      rcases h.nearest_of_mem y hy with ⟨-, hnone⟩ | ⟨z, hz, hmem, hsome'⟩
      · rw [hnone] at hsome
        cases hsome
      · rw [hsome, Option.some.injEq] at hsome'
        rw [eq_of_address_eq hkept hx hz hsome']
        exact hmem

/-- The description of a whole tree is made from the nodes that are kept. -/
theorem exists_sourced_describe (root : Node) :
    ∃ xs, Sourced root none (describe root) xs ∧
      (Source.flattenList xs).map Source.address
        = root.addresses.filter fun a => root.Keeps a := by
  have hexposed : root.Exposed [] := by simp [Exposed]
  obtain ⟨xs, hsourced, haddresses⟩ := exists_sourced root root rfl hexposed
  simp only [List.nil_append, List.map_id'] at haddresses
  exact ⟨xs, hsourced, haddresses⟩

/-- **A description is the outline of the tree**: it has an element for each node that is kept, in
document order, at the top if no node above is kept and otherwise below the nearest one. -/
theorem describe_outlined (root : Node) : ∃ xs, Outlined root (describe root) xs := by
  obtain ⟨xs, hsourced, hkept⟩ := exists_sourced_describe root
  exact ⟨xs, hsourced.outlined hkept⟩

end ScreenPages.Node
