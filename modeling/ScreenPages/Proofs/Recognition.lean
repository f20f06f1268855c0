import ScreenPages.Proofs.Described
import ScreenPages.Proofs.Numbering

/-!
# Finding a described page again

A page that describes a screen is looked for on the same screen.  Each element would match the
node that it was made from, so the search never gets behind the next of these nodes, and an
element with nothing below it is always found.  A container is found if it does not take a node
that stands below an earlier one for its own: then the first node that it matches is its own,
unless that is a container that another one took for its own before, which the search has
passed.  A container that does is missing if its children are not below that node, because the
search does not go back.

## Main definitions

* `Row`, `Level` — elements side by side that would match their own nodes.
* `Node.Clear` — no container takes a node below an earlier one for its own.

## Main results

* `Level.exists_placed` — elements side by side are all found.
* `Node.placed_describeList` — so are those of a description, if it is clear.
* `Resolution.describe_found` — what is missing of a page that describes a screen.
* `Resolution.not_forall_missing_eq_nil` — something may be missing.
-/

namespace ScreenPages

open Node (Described)

variable {s : Snapshot} {lo hi bound : Nat}

section

variable {engine : Template.Engine}

/-! ### Elements side by side -/

/-- Elements side by side, each made from a node of a scope that it would match. -/
structure Row [Template.Engine] (s : Snapshot) (lo : Nat) (xs : List Described) : Prop where
  ascending : xs.Pairwise fun x y => x.position < y.position
  le : ∀ x ∈ xs, lo ≤ x.position
  shows : ∀ x ∈ xs, s.Shows x.position x.element []

/-- A row of elements that are all found.  One that has others below it matches no earlier node
of the scope but those of the others, and if it matches one of these, then also all that the
element of this one matches. -/
structure Level [Template.Engine] (s : Snapshot) (lo : Nat) (xs : List Described) :
    Prop extends Row s lo xs where
  only : ∀ x ∈ xs, x.element.children ≠ [] → ∀ q, lo ≤ q → q < x.position →
    ∀ c, s.Shows q x.element c → ∃ y ∈ xs, y.position = q
  passes : ∀ x ∈ xs, ∀ y ∈ xs, y.element.children ≠ [] → ∀ c, s.Shows x.position y.element c →
    ∀ q c', s.Shows q x.element c' → s.Shows q y.element []
  /-- The elements below have places below the node. -/
  below : ∀ x ∈ xs, ∃ fs,
    Placed s (x.position + 1) (s.stop x.position) x.element.children fs

/-- What takes the node of an element for its own takes a node in front of it that is none of
the nodes that the elements are made from. -/
def Mistaken [Template.Engine] (s : Snapshot) (lo : Nat) (xs : List Described) (x : Described) :
    Prop :=
  ∃ q, lo ≤ q ∧ q < x.position ∧ (∀ y ∈ xs, y.position ≠ q) ∧
    ∀ y ∈ xs, y.element.children ≠ [] → ∀ c, s.Shows x.position y.element c →
      ∃ c', s.Shows q y.element c'

namespace Level

variable {xs done : List Described} {x : Described}

/-- The nodes of a level are told apart by their positions. -/
theorem position_lt (h : Level s lo (done ++ x :: xs)) :
    (∀ y ∈ done, y.position < x.position) ∧ ∀ y ∈ xs, x.position < y.position := by
  obtain ⟨-, hback, hcross⟩ := List.pairwise_append.mp h.ascending
  exact ⟨fun y hy => hcross y hy x List.mem_cons_self, (List.pairwise_cons.mp hback).1⟩

/-- A node of a level in front of another one is of an earlier element. -/
theorem mem_done (h : Level s lo (done ++ x :: xs)) {y : Described} (hy : y ∈ done ++ x :: xs)
    (hlt : y.position < x.position) : y ∈ done := by
  obtain ⟨-, hback⟩ := h.position_lt
  rcases List.mem_append.mp hy with hy | hy
  · exact hy
  · rcases List.mem_cons.mp hy with rfl | hy
    · exact absurd hlt (Nat.lt_irrefl _)
    · have hgt := hback y hy
      omega

/-- Nothing is below an element whose node is mistaken. -/
theorem children_eq_nil (h : Level s lo xs) (hx : x ∈ xs) (hmistaken : Mistaken s lo xs x) :
    x.element.children = [] := by
  by_contra hne
  obtain ⟨q, hq, hlt, hnew, htakes⟩ := hmistaken
  obtain ⟨c, hshows⟩ := htakes x hx hne [] (h.shows x hx)
  obtain ⟨y, hy, hposition⟩ := h.only x hx hne q hq hlt c hshows
  exact hnew y hy hposition

/-- If an element matches a node in front of its own, its own is mistaken: that one is none of
the nodes that the elements are made from, or it is one that is mistaken. -/
theorem mistaken (h : Level s lo (done ++ x :: xs)) (hlo : lo ≤ bound)
    (hdone : ∀ y ∈ done, bound ≤ y.position → Mistaken s lo (done ++ x :: xs) y) {q : Nat}
    {c : List Capture} (hq : bound ≤ q) (hlt : q < x.position) (hshows : s.Shows q x.element c) :
    Mistaken s lo (done ++ x :: xs) x := by
  have hx : x ∈ done ++ x :: xs := List.mem_append_right _ List.mem_cons_self
  by_cases hold : ∃ y ∈ done ++ x :: xs, y.position = q
  · obtain ⟨y, hy, rfl⟩ := hold
    obtain ⟨r, hr, hrlt, hnew, htakes⟩ := hdone y (h.mem_done hy hlt) hq
    refine ⟨r, hr, by omega, hnew, ?_⟩
    intro z hz hne c' hz'
    exact htakes z hz hne [] (h.passes x hx z hz hne c' hz' _ c hshows)
  · refine ⟨q, by omega, hlt, fun y hy hposition => hold ⟨y, hy, hposition⟩, ?_⟩
    intro z hz hne c' hz'
    exact ⟨[], h.passes x hx z hz hne c' hz' q c hshows⟩

/-- **The elements that are left are all found**, if the search did not get behind their nodes
and the nodes of earlier elements that it did not pass are mistaken. -/
theorem exists_placed_from (h : Level s lo (done ++ xs)) (hlo : lo ≤ bound)
    (hbound : ∀ x ∈ xs, bound ≤ x.position) (hhi : ∀ x ∈ xs, x.position < hi)
    (hdone : ∀ x ∈ done, bound ≤ x.position → Mistaken s lo (done ++ xs) x) :
    ∃ fs, Placed s bound hi (xs.map Described.element) fs := by
  induction xs generalizing done bound with
  | nil => exact ⟨[], .nil⟩
  | cons x xs ih =>
    have hx : x ∈ done ++ x :: xs := List.mem_append_right _ List.mem_cons_self
    obtain ⟨hfront, hback⟩ := h.position_lt
    obtain ⟨q, c, hfirst, hle⟩ := (h.shows x hx).exists_first
      (hbound x List.mem_cons_self) (hhi x List.mem_cons_self)
    have hq := hfirst.le
    have hnext : lo ≤ q + 1 := by omega
    have hbound' : ∀ y ∈ xs, q + 1 ≤ y.position := by
      intro y hy
      have hlt := hback y hy
      omega
    have hhi' : ∀ y ∈ xs, y.position < hi := fun y hy => hhi y (List.mem_cons_of_mem x hy)
    have hx_mistaken : q < x.position → Mistaken s lo (done ++ x :: xs) x :=
      fun hlt => h.mistaken hlo hdone hq hlt hfirst.shows
    -- the node is passed, or it is mistaken and nothing has to be found below the other one
    have hbelow : ∃ below, Placed s (q + 1) (s.stop q) x.element.children below := by
      rcases Nat.lt_or_eq_of_le hle with hlt | rfl
      · rw [h.children_eq_nil hx (hx_mistaken hlt)]
        exact ⟨[], .nil⟩
      · exact h.below x hx
    have hdone' : ∀ y ∈ done ++ [x], q + 1 ≤ y.position → Mistaken s lo (done ++ x :: xs) y := by
      intro y hy hpassed
      rcases List.mem_append.mp hy with hy | hy
      · exact hdone y hy (by omega)
      · obtain rfl := List.mem_singleton.mp hy
        exact hx_mistaken hpassed
    rw [List.append_cons done x xs] at h hdone'
    obtain ⟨below, hbelow⟩ := hbelow
    obtain ⟨fs, hrest⟩ := ih h hnext hbound' hhi' hdone'
    exact ⟨_, .cons hfirst hbelow hrest⟩

/-- **Elements side by side are all found.** -/
theorem exists_placed (h : Level s lo xs) (hhi : ∀ x ∈ xs, x.position < hi) :
    ∃ fs, Placed s lo hi (xs.map Described.element) fs := by
  have hall : Level s lo ([] ++ xs) := h
  refine hall.exists_placed_from (Nat.le_refl lo) h.le hhi ?_
  intro x hx
  cases hx

end Level

/-! ### The levels of a description -/

namespace Node

/-- An element with others below it matches no node below the node of another one. -/
def Apart [Template.Engine] (x y : Described) : Prop :=
  y.element.children ≠ [] → ∀ q path d, Stands x.node.children q path d →
    ∀ c, ¬ y.element.Matches d.step c

/-- Some trees, listed from a position on, are described without a container that could be
taken for a node below an earlier one: of the nodes that are kept side by side none has an
element with others below it that matches a node below an earlier of them, and the same is
true below each such element. -/
inductive Clear [Template.Engine] : Nat → List Node → Prop
  | intro {p : Nat} {ns : List Node}
      (level : ∀ x ∈ describedList p ns, ∀ y ∈ describedList p ns,
        x.position < y.position → Apart x y)
      (below : ∀ x ∈ describedList p ns, x.element.children ≠ [] →
        Clear (x.position + 1) x.node.children) : Clear p ns

variable {p q : Nat} {ns : List Node} {path : List Step} {d : Node}

/-- A description in which no container is below another one is clear. -/
theorem clear_of_flat (h : ∀ x ∈ describedList p ns, ∀ q path d, Stands x.node.children q path d →
    ∀ e, share d.step ≠ .container e) : Clear p ns := by
  refine .intro ?_ ?_
  · intro x hx y hy _ hne q path d hd c hm
    obtain ⟨hshown, -⟩ := exists_stands_of_mem_describedList hy
    obtain ⟨e, hshare, -⟩ := hshown.container_of_children hne
    obtain ⟨e', hshare'⟩ := exists_share_eq_container hshare (hshown.asks.kind_eq hm)
    exact h x hx q path d hd e' hshare'
  · -- what is kept below a container has nothing below itself
    intro x hx _
    have hleaf : ∀ y ∈ describedList (x.position + 1) x.node.children,
        y.element.children = [] := by
      intro y hy
      obtain ⟨hshown, q, path, -, hd⟩ := exists_stands_of_mem_describedList hy
      by_contra hne
      obtain ⟨e, hshare, -⟩ := hshown.container_of_children hne
      exact h x hx q path y.node hd e hshare
    exact .intro (fun _ _ y hy _ hne => absurd (hleaf y hy) hne)
      fun y hy hne => absurd (hleaf y hy) hne

/-- Below a node that stands among the trees its children are listed. -/
theorem lists_of_stands (h : s.Lists p ns) (hd : Stands ns q path d) :
    s.Lists (p + q + 1) d.children := by
  intro r rest m hm
  have hstands := h _ _ _ (hd.trans hm)
  rw [Nat.add_assoc q, ← Nat.add_assoc p, ← Nat.add_assoc (p + q)] at hstands
  exact hstands

/-- What is listed at a position shows what the node there does. -/
theorem shows_iff_of_stands (h : s.Lists p ns) (hd : Stands ns q path d) {e : Element}
    {c : List Capture} : s.Shows (p + q) e c ↔ e.Matches d.step c := by
  obtain ⟨⟨entry, hentry, hstep⟩, -⟩ := h _ _ _ hd
  rw [Snapshot.shows_iff_of_entry hentry, hstep]

/-- The nodes that are kept of some trees are a row. -/
theorem row_describedList (h : s.Lists p ns)
    (hplain : ∀ q path d, Stands ns q path d → d.step.Plain) :
    Row s p (describedList p ns) where
  ascending := by
    refine (pairwise_describedList p ns).imp ?_
    intro x y hle
    have hpos := size_pos x.node
    omega
  le x hx := by
    obtain ⟨-, q, -, hposition, -⟩ := exists_stands_of_mem_describedList hx
    omega
  shows x hx := by
    obtain ⟨hshown, q, path, hposition, hd⟩ := exists_stands_of_mem_describedList hx
    rw [hposition, shows_iff_of_stands h hd]
    exact hshown.asks.matches_self (hplain _ _ _ hd)

/-- **The nodes that are kept of some trees are a level**, if they are told apart and what is
below them is found. -/
theorem level_describedList (h : s.Lists p ns)
    (hplain : ∀ q path d, Stands ns q path d → d.step.Plain)
    (hclear : ∀ x ∈ describedList p ns, ∀ y ∈ describedList p ns,
      x.position < y.position → Apart x y)
    (hbelow : ∀ x ∈ describedList p ns, ∃ fs,
      Placed s (x.position + 1) (s.stop x.position) x.element.children fs) :
    Level s p (describedList p ns) where
  toRow := row_describedList h hplain
  only x hx hne r hr hlt c hshows := by
    obtain ⟨hshown, q, path, hposition, hd⟩ := exists_stands_of_mem_describedList hx
    obtain ⟨r, rfl⟩ := Nat.exists_eq_add_of_le hr
    have hin : r < sizeList ns := by
      have hq := hd.lt
      omega
    obtain ⟨path', m, hm⟩ := exists_stands hin
    rw [shows_iff_of_stands h hm] at hshows
    have hkept := mt (share_eq_below_congr (hshown.asks.kind_eq hshows)).mpr hshown.asks.kept
    obtain ⟨y, hy, hyposition | ⟨hylt, _, _, hinside⟩⟩ := exists_described_of_stands hm hkept p
    · exact ⟨y, hy, hyposition⟩
    · -- the node would be below an earlier one
      exact absurd hshows (hclear y hy x hx (by omega) hne _ _ _ hinside c)
  passes x hx y hy hne c hnode r c' hshows := by
    obtain ⟨hxshown, q, path, hposition, hd⟩ := exists_stands_of_mem_describedList hx
    obtain ⟨hyshown, -⟩ := exists_stands_of_mem_describedList hy
    rw [hposition, shows_iff_of_stands h hd] at hnode
    obtain ⟨entry, hentry, hm⟩ := hshows
    exact ⟨entry, hentry, hxshown.matches_of_matches hyshown hne hnode hm⟩
  below := hbelow

/-- **What describes some trees is found among them**, if the description is clear. -/
theorem placed_describeList (hclear : Clear p ns) (h : s.Lists p ns)
    (hplain : ∀ q path d, Stands ns q path d → d.step.Plain) :
    ∃ fs, Placed s p (p + sizeList ns) (describeList ns) fs := by
  induction hclear with
  | @intro p ns level below ih =>
    have hbelow : ∀ x ∈ describedList p ns, ∃ fs,
        Placed s (x.position + 1) (s.stop x.position) x.element.children fs := by
      intro x hx
      obtain ⟨hshown, q, path, hposition, hd⟩ := exists_stands_of_mem_describedList hx
      by_cases hne : x.element.children = []
      · rw [hne]
        exact ⟨[], .nil⟩
      · have hlists := lists_of_stands h hd
        rw [← hposition] at hlists
        obtain ⟨fs, hplaced⟩ := ih x hx hne hlists fun _ _ _ hm => hplain _ _ _ (hd.trans hm)
        obtain ⟨e, -, helement⟩ := hshown.container_of_children hne
        obtain ⟨-, hstop⟩ := h _ _ _ hd
        refine ⟨fs, ?_⟩
        rw [hposition, hstop, size_eq, ← Nat.add_assoc, ← hposition, helement]
        exact hplaced
    rw [← map_element_describedList p ns]
    refine (level_describedList h hplain level hbelow).exists_placed ?_
    intro x hx
    obtain ⟨-, q, _, hposition, hd⟩ := exists_stands_of_mem_describedList hx
    have hlt := hd.lt
    omega

end Node

/-! ### The whole page -/

/-- **The search for a page does not get behind the nodes that its elements have**, if there are
such nodes, one behind the other: an element is looked for from its node on or from further in
front, and it is found if no others are below it. -/
theorem Assigned.forall₂_reached {os : Outcomes} (h : Assigned s bound os) {ps : List Nat}
    (hshows : List.Forall₂ (fun o p => ∃ c, s.Shows p o.1 c) os ps)
    (hascending : ps.Pairwise (· < ·)) (hle : ∀ p ∈ ps, bound ≤ p) :
    List.Forall₂ (fun o p => (o.1.children = [] → o.2 ≠ none) ∧
      ∀ f, o.2 = some f → ∃ lo, lo ≤ p ∧ Placed s lo s.size [o.1] [f]) os ps := by
  induction h generalizing ps with
  | nil =>
    cases hshows
    exact .nil
  | @cons bound e outcome rest found missing behind ih =>
    obtain _ | @⟨_, p, _, ps, ⟨c, hp⟩, hshows⟩ := hshows
    obtain ⟨hback, hascending⟩ := List.pairwise_cons.mp hascending
    have hbound := hle p List.mem_cons_self
    obtain ⟨q, c', hfirst, hqp⟩ := hp.exists_first hbound hp.lt_size
    refine .cons ⟨?_, fun f hf => ⟨bound, hbound, (found f).mp hf⟩⟩ (ih hshows hascending ?_)
    · -- without anything below it the element would be found at the first match
      intro hnone hmissing
      have hplaced : Placed s bound s.size [e] [⟨e.identity, q, c', []⟩] :=
        .cons hfirst (by rw [hnone]; exact .nil) .nil
      exact hplaced.not_gap (missing.mp hmissing)
    · intro r hr
      have hlt := hback r hr
      cases outcome with
      | none => exact hle r (List.mem_cons_of_mem p hr)
      | some f =>
        obtain _ | ⟨first, -, -⟩ := (found f).mp rfl
        obtain ⟨rfl, -⟩ := first.unique hfirst
        simp only [Finding.bound]
        omega

/-- Of a row of elements at the top of a page one is missing only if others are below it. -/
theorem Row.children_ne_nil {xs : List Described} (hrow : Row s bound xs) {os : Outcomes}
    (h : Assigned s bound os) (hpage : os.map Prod.fst = xs.map Described.element) :
    ∀ e ∈ os.missing, e.children ≠ [] := by
  have hshows : List.Forall₂ (fun o p => ∃ c, s.Shows p o.1 c) os (xs.map Described.position) := by
    have hown : List.Forall₂ (fun e p => ∃ c, s.Shows p e c) (xs.map Described.element)
        (xs.map Described.position) := by
      rw [List.forall₂_map_left_iff, List.forall₂_map_right_iff, List.forall₂_same]
      intro x hx
      exact ⟨[], hrow.shows x hx⟩
    rw [← hpage, List.forall₂_map_left_iff] at hown
    exact hown
  have hreached := h.forall₂_reached hshows (List.pairwise_map.mpr hrow.ascending)
    (by simpa using hrow.le)
  intro e he hnone
  obtain ⟨o, ho, rfl⟩ := List.mem_map.mp he
  obtain ⟨hmem, hmissing⟩ := List.mem_filter.mp ho
  obtain ⟨p, -, hfound, -⟩ := hreached.flip.exists_of_mem_right o hmem
  exact hfound hnone (by simpa using hmissing)

end

namespace Resolution

open Node

section

variable {engine : Template.Engine}

/-- The texts of a screen that its description uses have no placeholders. -/
def PlainScreen (root : Node) : Prop := ∀ a d, root.at? a = some d → d.step.Plain

/-- **A page that describes a screen is read, and an element of it is missing on the same
screen only if others are below it; none is if the description is clear.** -/
theorem describe_found (root : Node) (hplain : PlainScreen root) :
    ∃ xs, Expectation.ofElements (describe root) = .ok xs ∧
      (∀ e ∈ (ofPage xs (some root)).missing, e.children ≠ []) ∧
      (Clear 0 [root] → (ofPage xs (some root)).missing = []) := by
  have hstands : ∀ q path d, Stands [root] q path d → d.step.Plain := by
    intro q path d hd
    obtain ⟨a, ha, -, -⟩ := hd.exists_offset_eq
    exact hplain a d ha
  have hlists := Snapshot.lists_ofTree root
  have hdescribe : describe root = describeList [root] := by
    rw [describeList, describeList, List.append_nil]
  obtain ⟨xs, hread⟩ := exists_ofElements_describeList hstands
  rw [← hdescribe] at hread
  obtain ⟨os, hpage, hassigned, hsearch⟩ := exists_search_eq hread root
  have hmissing : (ofPage xs (some root)).missing = os.missing := by
    rw [ofPage_some, hsearch]
  refine ⟨xs, hread, ?_, ?_⟩
  · rw [hmissing]
    refine (row_describedList hlists hstands).children_ne_nil hassigned ?_
    rw [map_element_describedList, hpage, hdescribe]
  · intro hclear
    obtain ⟨fs, hplaced⟩ := placed_describeList hclear hlists hstands
    rw [Nat.zero_add, sizeList_singleton, ← Snapshot.size_ofTree, ← hdescribe] at hplaced
    obtain ⟨os', hassigned', hpage', hnone⟩ := hplaced.exists_assigned
    rw [hmissing, hassigned.unique hassigned' (hpage.trans hpage'.symm), hnone]

/-- Whether a node is no text field and has no brace in its label. -/
def braceless (d : Node) : Bool :=
  d.step.kind ≠ .textField && d.step.kind ≠ .secureTextField && '\x7b' ∉ d.step.label.toList

theorem plainScreen_of_braceless {root : Node}
    (h : ∀ a ∈ root.addresses, (root.at? a).all braceless = true) : PlainScreen root := by
  intro a d hd
  have hnode := h a (mem_addresses_iff.mpr (by rw [hd]; rfl))
  rw [hd, Option.all_some, braceless, Bool.and_eq_true, Bool.and_eq_true] at hnode
  obtain ⟨⟨htext, hsecure⟩, hbrace⟩ := hnode
  refine ⟨Template.plain_of_notMem (of_decide_eq_true hbrace), ?_⟩
  rintro (hkind | hkind)
  · exact absurd hkind (of_decide_eq_true htext)
  · exact absurd hkind (of_decide_eq_true hsecure)

end

/-- A screen with two cells, of which each holds a text. -/
def cellScreen : Node :=
  ⟨{ kind := .application }, none, none,
    [ ⟨{ kind := .cell }, none, none,
        [⟨{ kind := .staticText, label := "Milk" }, none, none, []⟩]⟩,
      ⟨{ kind := .cell }, none, none,
        [⟨{ kind := .staticText, label := "Bread" }, none, none, []⟩]⟩ ]⟩

/-- The two cells are told apart, and nothing is missing. -/
theorem describe_found_cells : ∃ xs, Expectation.ofElements (describe cellScreen) = .ok xs ∧
    (ofPage xs (some cellScreen)).missing = [] := by
  have hplain : PlainScreen cellScreen := plainScreen_of_braceless (by decide)
  have hclear : Clear 0 [cellScreen] := by
    apply clear_of_flat
    intro x hx q path d hd e hshare
    have hnode : x.node ∈ cellScreen.children :=
      List.mem_map_of_mem (f := Described.node) (l := describedList 0 [cellScreen]) hx
    simp only [cellScreen, List.mem_cons, List.not_mem_nil, or_false] at hnode
    -- below each of the two cells there is a text only
    rcases hnode with hnode | hnode
    all_goals
      rw [hnode] at hd
      cases hd with
      | root => cases hshare
      | inner hd => cases hd
      | behind hd => cases hd
  obtain ⟨xs, hread, -, hfound⟩ := describe_found cellScreen hplain
  exact ⟨xs, hread, hfound hclear⟩

/-- A screen with a cell in the first of two cells. -/
def nestedScreen : Node :=
  ⟨{ kind := .application }, none, none,
    [ ⟨{ kind := .cell }, none, none, [⟨{ kind := .cell }, none, none, []⟩]⟩,
      ⟨{ kind := .cell }, none, none,
        [⟨{ kind := .staticText, label := "Milk" }, none, none, []⟩]⟩ ]⟩

/-- **A page that describes a screen need not be complete on the same screen.**  The search
for the second cell comes to the one in the first cell, in which there is no text. -/
theorem not_forall_missing_eq_nil : ¬ ∀ root, PlainScreen root →
    ∃ xs, Expectation.ofElements (describe root) = .ok xs ∧
      (ofPage xs (some root)).missing = [] := by
  intro hall
  obtain ⟨xs, hread, hmissing⟩ := hall nestedScreen (plainScreen_of_braceless (by decide))
  have hsearch : ((Expectation.ofElements (describe nestedScreen)).toOption.map fun xs =>
      (ofPage xs (some nestedScreen)).missing.length) = some 1 := by decide +kernel
  rw [hread] at hsearch
  simp [Except.toOption, hmissing] at hsearch

end Resolution

end ScreenPages
