import Mathlib.Data.List.Perm.Subperm
import ScreenPages.Proofs.Search
import ScreenPages.Proofs.Standing

/-!
# Nodes that elements share

Behind the node of an element the search goes on with the very next node, not with the first
one behind the subtree.  An element that is declared after a container may therefore get a
node that a child of the container has got already.  Such a node is **shared**, and this is
the only way in which two elements can share one: the first of them is nested below a
container, and the other one, or what it is nested below, is declared beside the container and
after it, and has its node in the subtree of the container's.

If nothing reaches back into the subtree of a container in this way, all elements have nodes of
their own, and a page that is there declares no more elements than the screen has nodes.

## Main definitions

* `Finding.levels` — the findings that are side by side, at the top or below another one.
* `Finding.Crossing` — how two findings come to share a node.
* `Finding.Parted` — no finding reaches back into the subtree of a container.
* `Resolution.Sparing` — which elements of a page share their nodes.

## Main results

* `Snapshot.nested_ofTree` — of two subtrees one is part of the other, or they are disjoint.
* `Placed.mem_flattenList_scope` — what is below a finding is in the subtree of its node.
* `Placed.pairwise_crossing` — findings share a node only by a crossing.
* `Resolution.search_sparing` — which elements share their nodes, and when none do.
-/

namespace ScreenPages

section

variable {engine : Template.Engine}

/-! ### Subtrees -/

namespace Snapshot

/-- A subtree that begins within another one ends within it. -/
def Nested (s : Snapshot) : Prop := ∀ p q, p < q → q < s.stop p → s.stop q ≤ s.stop p

/-- Subtrees end where the snapshot ends, or before. -/
theorem stop_le_size_ofTree (root : Node) {p : Nat} (h : p < (ofTree root).size) :
    (ofTree root).stop p ≤ (ofTree root).size := by
  obtain ⟨path, n, hn⟩ := Node.exists_stands_ofTree h
  have hle := hn.add_size_le
  rw [Node.sizeList_singleton] at hle
  rw [hn.stop_eq, size_ofTree]
  exact hle

/-- Nothing is below a position that is behind all nodes. -/
theorem stop_eq_zero {s : Snapshot} {p : Nat} (h : s.size ≤ p) : s.stop p = 0 := by
  rw [stop, entry?, Array.getElem?_eq_none h]
  rfl

/-- **A subtree that begins within another one is part of it.** -/
theorem nested_ofTree (root : Node) : (ofTree root).Nested := by
  intro p q hpq hq
  rcases Nat.lt_or_ge p (ofTree root).size with hp | hp
  · obtain ⟨path, n, hn⟩ := Node.exists_stands_ofTree hp
    rw [hn.stop_eq] at hq ⊢
    have hsize := Node.size_eq n
    -- the node at `q` stands among the trees of the children
    have hin : q - (p + 1) < Node.sizeList n.children := by omega
    obtain ⟨rest, m, hm⟩ := Node.exists_stands hin
    have hstands := hn.trans hm
    rw [Nat.add_sub_cancel' hpq] at hstands
    have hle := hm.add_size_le
    rw [hstands.stop_eq]
    omega
  · rw [stop_eq_zero hp] at hq
    exact absurd hq (Nat.not_lt_zero q)

end Snapshot

/-! ### What is below a finding -/

namespace Placed

variable {s : Snapshot} {lo hi : Nat} {es : List Element} {fs : List Finding}

/-- **Places lie in the scope at every depth**, if no subtree reaches out of it. -/
theorem mem_flattenList_scope (hs : s.Nested) (h : Placed s lo hi es fs)
    (hhi : ∀ q, lo ≤ q → q < hi → s.stop q ≤ hi) :
    ∀ f ∈ Finding.flattenList fs, lo ≤ f.position ∧ f.position < hi := by
  induction h with
  | nil =>
    intro f hf
    rw [Finding.flattenList_nil] at hf
    cases hf
  | @cons lo hi p e captures below fs es first children rest ih_children ih_rest =>
    have hle := first.le
    have hlt := first.lt
    have hstop := hhi p hle hlt
    intro f hf
    rw [Finding.flattenList_cons, List.mem_cons, List.mem_append] at hf
    rcases hf with rfl | hf | hf
    · exact ⟨hle, hlt⟩
    · obtain ⟨hflo, hfhi⟩ := ih_children (fun q hq => hs p q hq) f hf
      exact ⟨by omega, by omega⟩
    · obtain ⟨hflo, hfhi⟩ := ih_rest (fun q hq => hhi q (by omega)) f hf
      exact ⟨by omega, hfhi⟩

/-- What is below a finding is in the subtree of its node. -/
theorem mem_subtree {p : Nat} (hs : s.Nested) (h : Placed s (p + 1) (s.stop p) es fs) :
    ∀ f ∈ Finding.flattenList fs, f.position ∈ s.subtree p := by
  intro f hf
  obtain ⟨hlo, hhi⟩ := h.mem_flattenList_scope hs (fun q hq => hs p q hq) f hf
  rw [Snapshot.subtree, List.mem_range'_1]
  omega

end Placed

/-- No node of a finding in or below another one comes before the node of that one. -/
theorem Finding.Suits.position_le {s : Snapshot} {e : Element} {f : Finding} (hs : s.Nested)
    (h : f.Suits s e) : ∀ g ∈ f.flatten, f.position ≤ g.position := by
  intro g hg
  rw [Finding.flatten_eq, List.mem_cons] at hg
  rcases hg with rfl | hg
  · exact Nat.le_refl _
  · have hin := h.children.mem_subtree hs g hg
    rw [Snapshot.subtree, List.mem_range'_1] at hin
    omega

/-! ### Crossings -/

namespace Finding

/-- A finding in or below some others is in or below one of them. -/
theorem exists_mem_flatten {g : Finding} {fs : List Finding} (h : g ∈ flattenList fs) :
    ∃ f ∈ fs, g ∈ f.flatten := by
  induction fs with
  | nil =>
    rw [flattenList_nil] at h
    cases h
  | cons f fs ih =>
    rw [flattenList, List.mem_append] at h
    rcases h with h | h
    · exact ⟨f, List.mem_cons_self, h⟩
    · obtain ⟨x, hx, hg⟩ := ih h
      exact ⟨x, List.mem_cons_of_mem f hx, hg⟩

/-- Some findings are among those that are in or below them. -/
theorem subset_flattenList (fs : List Finding) : fs ⊆ flattenList fs := by
  induction fs with
  | nil => exact List.nil_subset _
  | cons f fs ih =>
    rw [flattenList_cons]
    exact List.cons_subset_cons f fun g hg => List.mem_append_right _ (ih hg)

/-- The findings side by side: those at the top, and the children of each finding. -/
def levels (fs : List Finding) : List (List Finding) := fs :: (flattenList fs).map children

/-- Two findings **cross**: the first is below one of two findings side by side, the second is
the later one of the two or below it, and the node of the later one is in the subtree of the
node of the earlier one. -/
def Crossing (s : Snapshot) (fs : List Finding) (f g : Finding) : Prop :=
  ∃ level ∈ levels fs, ∃ x y, [x, y].Sublist level ∧ f ∈ flattenList x.children ∧ g ∈ y.flatten ∧
    y.position ∈ s.subtree x.position

/-- No finding has its node in the subtree of a container that is beside it and before it. -/
def Parted (s : Snapshot) (fs : List Finding) : Prop :=
  ∀ level ∈ levels fs,
    level.Pairwise fun x y => x.children = [] ∨ y.position ∉ s.subtree x.position

end Finding

/-- The elements side by side: those at the top, and the children of each element. -/
def Element.levels (es : List Element) : List (List Element) :=
  es :: (flattenList es).map children

/-- Nothing is declared beside an element with children and after it. -/
def Element.Trailing (es : List Element) : Prop :=
  ∀ level ∈ levels es, level.Pairwise fun x _ => x.children = []

namespace Finding

variable {s : Snapshot} {fs : List Finding} {f g x : Finding}

/-- What crosses below a finding crosses. -/
theorem Crossing.below (h : Crossing s x.children f g) (hx : x ∈ flattenList fs)
    (hsub : flattenList x.children ⊆ flattenList fs) : Crossing s fs f g := by
  obtain ⟨level, hlevel, hrest⟩ := h
  refine ⟨level, ?_, hrest⟩
  rw [levels, List.mem_cons] at hlevel
  refine List.mem_cons_of_mem _ ?_
  rcases hlevel with rfl | hlevel
  · exact List.mem_map_of_mem hx
  · exact List.map_subset _ hsub hlevel

/-- What crosses among the later ones of some findings crosses. -/
theorem Crossing.behind (h : Crossing s fs f g) : Crossing s (x :: fs) f g := by
  obtain ⟨level, hlevel, a, b, hab, hrest⟩ := h
  rw [levels, List.mem_cons] at hlevel
  rcases hlevel with rfl | hlevel
  · exact ⟨_, List.mem_cons_self, a, b, hab.cons x, hrest⟩
  · refine ⟨level, List.mem_cons_of_mem _ ?_, a, b, hab, hrest⟩
    refine List.map_subset _ ?_ hlevel
    rw [flattenList_cons]
    exact fun y hy => List.mem_cons_of_mem _ (List.mem_append_right _ hy)

/-- Nothing crosses if all findings are parted. -/
theorem Parted.not_crossing (h : Parted s fs) : ¬ Crossing s fs f g := by
  rintro ⟨level, hlevel, x, y, hxy, hf, -, hy⟩
  have hpair := (h level hlevel).sublist hxy
  rw [List.pairwise_pair] at hpair
  rcases hpair with hnil | hout
  · rw [hnil, flattenList_nil] at hf
    cases hf
  · exact hout hy

end Finding

namespace Placed

variable {s : Snapshot} {lo hi : Nat} {es : List Element} {fs : List Finding}

/-- **Findings share a node only by a crossing.** -/
theorem pairwise_crossing (hs : s.Nested) (h : Placed s lo hi es fs)
    (hhi : ∀ q, lo ≤ q → q < hi → s.stop q ≤ hi) :
    (Finding.flattenList fs).Pairwise fun f g =>
      f.position = g.position → Finding.Crossing s fs f g := by
  induction h with
  | nil =>
    rw [Finding.flattenList_nil]
    exact List.Pairwise.nil
  | @cons lo hi p e captures below fs es first children rest ih_children ih_rest =>
    have hle := first.le
    have hbelow := children.mem_subtree hs
    have hrest := rest.mem_flattenList_scope hs fun q hq => hhi q (by omega)
    have hself : ∀ g ∈ Finding.flattenList below ++ Finding.flattenList fs, p < g.position := by
      intro g hg
      rcases List.mem_append.mp hg with hg | hg
      · have hmem := hbelow g hg
        rw [Snapshot.subtree, List.mem_range'_1] at hmem
        exact hmem.1
      · exact (hrest g hg).1
    rw [Finding.flattenList_cons, List.pairwise_cons, List.pairwise_append]
    refine ⟨?_, ?_, ?_, ?_⟩
    · -- behind the node of an element there are only other nodes
      intro g hg heq
      exact absurd heq (Nat.ne_of_lt (hself g hg))
    · refine (ih_children fun q hq => hs p q hq).imp ?_
      intro f g hcross heq
      refine (hcross heq).below (x := ⟨e.identity, p, captures, below⟩) ?_ ?_
      · rw [Finding.flattenList_cons]
        exact List.mem_cons_self
      · rw [Finding.flattenList_cons]
        exact fun y hy => List.mem_cons_of_mem _ (List.mem_append_left _ hy)
    · refine (ih_rest fun q hq => hhi q (by omega)).imp ?_
      intro f g hcross heq
      exact (hcross heq).behind
    · -- a later finding that shares a node with what is below this one begins in its subtree
      intro f hf g hg heq
      obtain ⟨y, hy, hgy⟩ := Finding.exists_mem_flatten hg
      have hlater := (rest.mem_scope y hy).1
      obtain ⟨_, _, hsuits⟩ := rest.forall₂_flattenList.exists_of_mem_right y
        (Finding.subset_flattenList fs hy)
      have hreach := hsuits.position_le hs g hgy
      have hin := hbelow f hf
      refine ⟨_, List.mem_cons_self, ⟨e.identity, p, captures, below⟩, y, ?_, hf, hgy, ?_⟩
      · exact (List.singleton_sublist.mpr hy).cons_cons _
      · rw [Snapshot.subtree, List.mem_range'_1] at hin ⊢
        simp only
        omega

/-- Elements that have nothing below them, but for the last, have findings that are parted from
those beside them. -/
theorem pairwise_children_eq_nil (h : Placed s lo hi es fs)
    (hes : es.Pairwise fun x _ => x.children = []) :
    fs.Pairwise fun x y => x.children = [] ∨ y.position ∉ s.subtree x.position := by
  induction h with
  | nil => exact List.Pairwise.nil
  | @cons lo hi p e captures below fs es first children rest _ ih_rest =>
    rw [List.pairwise_cons] at hes
    rw [List.pairwise_cons]
    refine ⟨?_, ih_rest hes.2⟩
    intro g hg
    left
    -- there is a finding behind this one, so its element is not the last
    have hnil : e.children = [] := by
      cases rest with
      | nil => cases hg
      | cons => exact hes.1 _ List.mem_cons_self
    rw [hnil] at children
    cases children
    rfl

/-- **Findings are parted if nothing is declared after a container.** -/
theorem parted (h : Placed s lo hi es fs) (hes : Element.Trailing es) : Finding.Parted s fs := by
  intro level hlevel
  rw [Finding.levels, List.mem_cons] at hlevel
  rcases hlevel with rfl | hlevel
  · exact h.pairwise_children_eq_nil (hes es List.mem_cons_self)
  · obtain ⟨f, hf, rfl⟩ := List.mem_map.mp hlevel
    obtain ⟨e, he, hsuits⟩ := h.forall₂_flattenList.exists_of_mem_right f hf
    refine hsuits.children.pairwise_children_eq_nil (hes e.children ?_)
    exact List.mem_cons_of_mem _ (List.mem_map_of_mem he)

end Placed

/-! ### The nodes of a page -/

namespace Outcomes

variable {os : Outcomes}

/-- What is accepted of a page declares nothing after a container if the page does not. -/
theorem trailing_accepted (h : Element.Trailing (os.map Prod.fst)) :
    Element.Trailing os.accepted := by
  intro level hlevel
  rw [Element.levels, List.mem_cons] at hlevel
  rcases hlevel with rfl | hlevel
  · have hsub : os.accepted.Sublist (os.map Prod.fst) := List.filter_sublist.map Prod.fst
    exact (h _ List.mem_cons_self).sublist hsub
  · refine h level (List.mem_cons_of_mem _ ?_)
    exact List.map_subset _ os.flattenList_accepted_subset hlevel

end Outcomes

namespace Placed

variable {s : Snapshot} {lo hi : Nat} {es : List Element} {fs : List Finding}

/-- Parted findings have nodes of their own. -/
theorem nodup_position (hs : s.Nested) (h : Placed s lo hi es fs)
    (hhi : ∀ q, lo ≤ q → q < hi → s.stop q ≤ hi) (hparted : Finding.Parted s fs) :
    ((Finding.flattenList fs).map Finding.position).Nodup := by
  rw [List.Nodup, List.pairwise_map]
  refine (h.pairwise_crossing hs hhi).imp ?_
  intro f g hcross heq
  exact hparted.not_crossing (hcross heq)

/-- Elements that have nodes of their own are no more than there are nodes. -/
theorem length_le_size (h : Placed s lo hi es fs)
    (hdistinct : ((Finding.flattenList fs).map Finding.position).Nodup) :
    (Element.flattenList es).length ≤ s.size := by
  have hsuits := h.forall₂_flattenList
  have hbounded : (Finding.flattenList fs).map Finding.position ⊆ List.range s.size := by
    intro p hp
    obtain ⟨f, hf, rfl⟩ := List.mem_map.mp hp
    obtain ⟨e, -, hfor⟩ := hsuits.exists_of_mem_right f hf
    exact List.mem_range.mpr hfor.shows.lt_size
  have hle := (List.subperm_of_subset hdistinct hbounded).length_le
  rwa [List.length_map, List.length_range, ← hsuits.length_eq] at hle

end Placed

end

namespace Resolution

section

variable {engine : Template.Engine}

/-- How a search deals with the nodes of a screen: the nodes of the elements that it found are
told apart as far as can be. -/
structure Sparing [Template.Engine] (page : List Element) (root : Node)
    (answer : List Element × Notes) (os : Outcomes) : Prop where
  /-- There is an outcome for each element at the top. -/
  top : os.map Prod.fst = page
  /-- It is the one that the rule of placement gives. -/
  assigned : Assigned (Snapshot.ofTree root) 0 os
  missing : answer.1 = os.missing
  /-- The notes give the node of each finding. -/
  noted : answer.2.sightings.map (fun x => (x.identity, x.position))
    = (Finding.flattenList os.found).map fun f => (f.identity, f.position)
  /-- Two elements share a node only by a crossing. -/
  shared : (Finding.flattenList os.found).Pairwise fun f g =>
    f.position = g.position → Finding.Crossing (Snapshot.ofTree root) os.found f g
  /-- If no finding reaches back into the subtree of a container, no node is shared, and a page
  that is there declares no more elements than the screen has nodes. -/
  distinct : Finding.Parted (Snapshot.ofTree root) os.found →
    (answer.2.sightings.map Sighting.position).Nodup ∧
      (answer.1 = [] → (Element.flattenList page).length ≤ root.size)
  /-- No finding does, whatever the screen, if nothing is declared after a container. -/
  parted : Element.Trailing page → Finding.Parted (Snapshot.ofTree root) os.found

/-- **Elements share a node only by a crossing**, and if none of them reaches back into the
subtree of a container each has a node of its own. -/
theorem search_sparing {page : List Element} {xs : List Expectation}
    (hread : Expectation.ofElements page = .ok xs) (root : Node) :
    ∃ os, Sparing page root (search xs root) os := by
  obtain ⟨os, hpage, hassigned, hsearch⟩ := exists_search_eq hread root
  have hnested := Snapshot.nested_ofTree root
  have hends := fun q (_ : 0 ≤ q) => Snapshot.stop_le_size_ofTree root (p := q)
  have hplaced := hassigned.placed
  have hnoted : (search xs root).2.sightings.map (fun x => (x.identity, x.position))
      = (Finding.flattenList os.found).map fun f => (f.identity, f.position) := by
    have hplaces := congrArg (List.map fun x => (x.1, x.2.1))
      (Notes.map_sightings_addAll {} (Snapshot.ofTree root) (Finding.flattenList os.found))
    rw [hsearch]
    simpa [Function.comp_def] using hplaces
  have hpositions : (search xs root).2.sightings.map Sighting.position
      = (Finding.flattenList os.found).map Finding.position := by
    simpa [Function.comp_def] using congrArg (List.map Prod.snd) hnoted
  refine ⟨os, hpage, hassigned, by rw [hsearch], hnoted,
    hplaced.pairwise_crossing hnested hends, ?_, ?_⟩
  · intro hparted
    have hdistinct := hplaced.nodup_position hnested hends hparted
    refine ⟨by rw [hpositions]; exact hdistinct, ?_⟩
    intro hmissing
    rw [hsearch] at hmissing
    have hle := hplaced.length_le_size hdistinct
    rwa [Snapshot.size_ofTree, Outcomes.accepted_eq hmissing, hpage] at hle
  · intro htrailing
    rw [← hpage] at htrailing
    exact hplaced.parted (Outcomes.trailing_accepted htrailing)

end

/-- The text and the cell of the sample page, which declare nothing after the cell. -/
def basketPage : List Element := samplePage.take 2

/-- The text, the cell and what is in the cell have nodes of their own on the sample screen. -/
theorem search_sparing_basket :
    ∃ os, Sparing basketPage sampleScreen (search (sampleExpectations.take 2) sampleScreen) os ∧
      Finding.Parted (Snapshot.ofTree sampleScreen) os.found ∧
      (Element.flattenList basketPage).length ≤ sampleScreen.size := by
  have htrailing : Element.Trailing basketPage := by
    simp [Element.Trailing, Element.levels, basketPage, samplePage]
  have hread : Expectation.ofElements basketPage = .ok (sampleExpectations.take 2) := rfl
  obtain ⟨os, hsparing⟩ := search_sparing hread sampleScreen
  have hparted := hsparing.parted htrailing
  exact ⟨os, hsparing, hparted, (hsparing.distinct hparted).2 (by decide +kernel)⟩

/-- A page with a window around a button, and the button once more behind it. -/
def doubledPage : List Element :=
  [ ⟨.declared 1, .window, none, none, none,
      [⟨.declared 2, .button, none, some "Buy", none, []⟩]⟩,
    ⟨.declared 3, .button, none, some "Buy", none, []⟩ ]

/-- A screen with a single button. -/
def singleScreen : Node :=
  ⟨{ kind := .window }, none, none,
    [⟨{ kind := .button, label := "Buy" }, none, none, []⟩]⟩

/-- The page with its templates read. -/
def doubledExpectations : List Expectation :=
  match Expectation.ofElements doubledPage with
  | .ok xs => xs
  | .error _ => []

/-- The button in the window and the one behind it get the same node, and so a page of three
elements is there on a screen of two nodes. -/
theorem not_forall_nodup_position :
    (¬ ∀ page xs, Expectation.ofElements page = .ok xs → ∀ root,
      ((search xs root).2.sightings.map Sighting.position).Nodup) ∧
    ¬ ∀ page xs, Expectation.ofElements page = .ok xs → ∀ root,
      (ofPage xs (some root)).isComplete = true →
        (Element.flattenList page).length ≤ root.size := by
  refine ⟨?_, ?_⟩
  · intro hdistinct
    have hnodup := hdistinct doubledPage doubledExpectations rfl singleScreen
    revert hnodup
    decide +kernel
  · intro henough
    have hle := henough doubledPage doubledExpectations rfl singleScreen (by decide +kernel)
    revert hle
    decide +kernel

end Resolution

end ScreenPages
