import ScreenPages.Proofs.Outline
import ScreenPages.Proofs.Recognition
import ScreenPages.Proofs.Sharing

/-!
# Where a described page is found again

A page that describes a screen is looked for on the same screen.  What is found of it is found
where it was described from, or further in front: the search for an element begins no later than
at the node of the element, because it went no further for the elements before, and it takes
the first node that will do.

The same is true below.  A container that is found at its own node has its children there, and they
are looked for as the elements at the top are.  If it is found at an earlier node, that node is not
above its own: a node above of the same kind would be kept, and the container would be described
below it.  So all that is found below is in front of the node of the container.

## Main definitions

* `Node.NotBehind` — what was found for an element and below was found no later than it stands.
* `Resolution.Rediscovered` — what becomes of a described page on its own screen.

## Main results

* `Node.stop_le_offset` — a container that is found too early is found in a tree further in front.
* `Node.Sourced.forall₂_notBehind` — elements that have places have them no later than they stand.
* `Resolution.describe_rediscovered` — a described page is found again.
-/

namespace ScreenPages

open Snapshot

section

variable {engine : Template.Engine}

namespace Node

variable {root n m : Node} {a b : List Nat} {near : Option (List Nat)} {es : List Element}
  {xs : List Source} {fs : List Finding} {lo hi : Nat}

/-! ### Positions of kept nodes -/

/-- The nodes above another are those in whose subtree it is. -/
theorem mem_above_iff_offset (ha : root.at? a = some n) (hb : root.at? b = some m) :
    b ∈ above a ↔ root.offset b < root.offset a ∧ root.offset a < root.offset b + m.size := by
  have hsubtree := mem_subtree_offset_iff (q := root.offset a) hb
  have hpos := size_pos m
  rw [subtree_offset hb, List.mem_range'_1, getElem?_addresses_offset ha] at hsubtree
  rw [mem_above_iff]
  constructor
  · rintro ⟨hfront, hne⟩
    have hscope := hsubtree.mpr ⟨a, rfl, hfront, hne⟩
    omega
  · intro hscope
    obtain ⟨c, hc, hfront, hne⟩ := hsubtree.mp (by omega)
    cases hc
    exact ⟨hfront, hne⟩

/-- What an element carries is what it asks for. -/
theorem Carries.asks {s : Step} {e : Element} (h : Carries s e) (hkept : s.kind ∈ keptKinds) :
    Asks s e where
  kind := h.kind
  kept := fun hbelow => not_mem_keptKinds_of_below hbelow hkept
  identifier := by
    intro i hi
    rw [h.identifier] at hi
    split at hi
    · cases hi
    · exact (nonempty?_eq_some_iff.mp hi).1
  label := by
    intro t ht
    rw [h.label] at ht
    split at ht
    · cases ht
      rfl
    · split at ht
      · exact (nonempty?_eq_some_iff.mp ht).1
      · cases ht
  value := by
    intro t ht
    rw [h.value] at ht
    split at ht
    · rename_i hkind
      obtain ⟨v, hv, hnonempty⟩ := Option.bind_eq_some_iff.mp ht
      obtain ⟨rfl, -⟩ := nonempty?_eq_some_iff.mp hnonempty
      exact ⟨by simpa using hkind, hv⟩
    · cases ht

/-- A kept node of a plain screen shows its element. -/
theorem Carries.shows {e : Element} (h : Carries n.step e) (hn : root.at? a = some n)
    (hkeeps : root.Keeps a) (hplain : n.step.Plain) :
    (ofTree root).Shows (root.offset a) e [] := by
  rw [shows_iff_of_entry (entry?_offset hn)]
  exact (h.asks (hkeeps.kind_mem hn)).matches_self hplain

/-- **A container that is found too early is found in a tree further in front**: where it is found
is behind all kept nodes above its own, so it is not above its own. -/
theorem stop_le_offset {e : Element} {p : Nat} {c : List Capture} (hcarries : Carries n.step e)
    (hn : root.at? a = some n) (hkeeps : root.Keeps a)
    (habove : ∀ b ∈ above a, root.Keeps b → root.offset b < p) (hp : p < root.offset a)
    (hshows : (ofTree root).Shows p e c) : (ofTree root).stop p ≤ root.offset a := by
  by_contra hlt
  have hsize := hshows.lt_size
  rw [size_ofTree] at hsize
  obtain ⟨b, m, hm, rfl⟩ := exists_offset_eq hsize
  rw [stop_offset hm] at hlt
  have hkind := hkeeps.kind_mem hn
  have hmatches := (shows_iff_of_entry (entry?_offset hm)).mp hshows
  -- the node is of the same kind, so it would be kept
  have hkind' : m.step.kind ∈ keptKinds := (hcarries.asks hkind).kind_eq hmatches ▸ hkind
  have hmem : b ∈ above a := (mem_above_iff_offset hn hm).mpr (by omega)
  exact lt_irrefl _ (habove b hmem (hkeeps.of_mem_above hmem hm hkind'))

/-! ### What is found no later -/

/-- What was found for an element, and for those below it, was found at the nodes that they were
made from or further in front. -/
def NotBehind (root : Node) (f : Finding) (x : Source) : Prop :=
  List.Forall₂ (fun g y => g.position ≤ root.offset y.address) f.flatten x.flatten

theorem forall₂_flattenList_of_notBehind (h : List.Forall₂ root.NotBehind fs xs) :
    List.Forall₂ (fun g y => g.position ≤ root.offset y.address)
      (Finding.flattenList fs) (Source.flattenList xs) := by
  induction h with
  | nil => simp
  | cons hfx _ ih =>
    rw [Finding.flattenList, Source.flattenList]
    exact List.rel_append hfx ih

/-- The nodes of some sources are kept, and the sources stand in document order. -/
structure Ordered (root : Node) (xs : List Source) : Prop where
  keeps : ∀ x ∈ Source.flattenList xs, root.Keeps x.address
  ascending : ((Source.flattenList xs).map fun x => root.offset x.address).Pairwise (· < ·)

namespace Ordered

variable {x : Source}

theorem head (h : Ordered root (x :: xs)) : Ordered root [x] := by
  obtain ⟨hkeeps, hascending⟩ := h
  rw [Source.flattenList, List.map_append] at hascending
  refine ⟨?_, ?_⟩
  · intro y hy
    apply hkeeps y
    rw [Source.flattenList]
    exact List.mem_append_left _ (by simpa [Source.flattenList] using hy)
  · simpa [Source.flattenList] using (List.pairwise_append.mp hascending).1

theorem tail (h : Ordered root (x :: xs)) : Ordered root xs := by
  obtain ⟨hkeeps, hascending⟩ := h
  rw [Source.flattenList, List.map_append] at hascending
  refine ⟨?_, (List.pairwise_append.mp hascending).2.1⟩
  intro y hy
  apply hkeeps y
  rw [Source.flattenList]
  exact List.mem_append_right _ hy

theorem children (h : Ordered root (x :: xs)) : Ordered root x.children := by
  obtain ⟨hkeeps, hascending⟩ := h.head
  rw [Source.flattenList_cons, Source.flattenList_nil, List.append_nil] at hkeeps hascending
  rw [List.map_cons, List.pairwise_cons] at hascending
  exact ⟨fun y hy => hkeeps y (List.mem_cons_of_mem x hy), hascending.2⟩

/-- What comes behind a source, below it or beside it, stands behind it. -/
theorem lt (h : Ordered root (x :: xs)) :
    ∀ y ∈ Source.flattenList x.children ++ Source.flattenList xs,
      root.offset x.address < root.offset y.address := by
  have hascending := h.ascending
  rw [Source.flattenList_cons, List.map_cons, List.pairwise_cons] at hascending
  intro y hy
  exact hascending.1 _ (List.mem_map_of_mem hy)

end Ordered

/-- Sources at the top stand among those at every depth. -/
theorem mem_flattenList_of_mem {x : Source} (hx : x ∈ xs) : x ∈ Source.flattenList xs := by
  induction xs with
  | nil => cases hx
  | cons y ys ih =>
    rw [Source.flattenList_cons, List.mem_cons, List.mem_append]
    rcases List.mem_cons.mp hx with rfl | hx
    · exact .inl rfl
    · exact .inr (.inr (ih hx))

/-- The kept nodes above a source stand in front of a scope if what is nearest to it does. -/
theorem offset_lt_of_nearest (hnearest : root.nearest? a = near)
    (hnear : ∀ c ∈ near, (∃ m, root.at? c = some m) ∧ root.offset c < lo) :
    ∀ b ∈ above a, root.Keeps b → root.offset b < lo := by
  intro b hb hkeeps
  cases near with
  | none => exact absurd hkeeps (not_keeps_of_nearest?_eq_none hnearest b hb)
  | some c =>
    obtain ⟨⟨m, hm⟩, hlt⟩ := hnear c rfl
    have hfront := prefix_of_nearest?_eq_some hnearest hb hkeeps
    by_cases hbc : b = c
    · rwa [hbc]
    · obtain ⟨⟨k, hk, -⟩, -⟩ := hkeeps
      have habove := (mem_above_iff_offset hm hk).mp (mem_above_iff.mpr ⟨hfront, hbc⟩)
      omega

/-- The sources below another stand in its subtree. -/
theorem Sourced.mem_scope (h : Sourced root (some a) es xs) (hn : root.at? a = some n)
    (hordered : Ordered root xs) : ∀ x ∈ xs,
      root.offset a + 1 ≤ root.offset x.address ∧
        root.offset x.address < (ofTree root).stop (root.offset a) := by
  intro x hx
  obtain ⟨⟨m, hm, -⟩, -⟩ := hordered.keeps x (mem_flattenList_of_mem hx)
  obtain ⟨hmem, -⟩ := mem_above_of_nearest?_eq_some (h.nearest_eq x hx)
  rw [mem_above_iff_offset hm hn] at hmem
  rw [stop_offset hn]
  omega

/-- What is found in a tree further in front is found no later. -/
theorem Sourced.forall₂_of_stop_le {p o : Nat} (h : Sourced root near es xs)
    (hplaced : Placed (ofTree root) (p + 1) ((ofTree root).stop p) es fs)
    (hstop : (ofTree root).stop p ≤ o)
    (hlt : ∀ y ∈ Source.flattenList xs, o < root.offset y.address) :
    List.Forall₂ (fun g y => g.position ≤ root.offset y.address)
      (Finding.flattenList fs) (Source.flattenList xs) := by
  have hlength := hplaced.forall₂_flattenList.length_eq.symm.trans h.forall₂_flattenList.length_eq
  have hscope := hplaced.mem_flattenList_scope (nested_ofTree root)
    fun q hq => nested_ofTree root p q hq
  refine List.forall₂_iff_zip.mpr ⟨hlength, ?_⟩
  intro g y hgy
  obtain ⟨hg, hy⟩ := List.of_mem_zip hgy
  have hgp := (hscope g hg).2
  have hoy := hlt y hy
  omega

/-- **Elements that have places have them no later than they stand**, at every depth, if they
stand in the scope and what is nearest to them stands in front of it. -/
theorem Sourced.forall₂_notBehind (hplain : Resolution.PlainScreen root)
    (h : Placed (ofTree root) lo hi es fs) (hs : Sourced root near es xs)
    (hordered : Ordered root xs)
    (hscope : ∀ x ∈ xs, lo ≤ root.offset x.address ∧ root.offset x.address < hi)
    (hnear : ∀ c ∈ near, (∃ m, root.at? c = some m) ∧ root.offset c < lo) :
    List.Forall₂ root.NotBehind fs xs := by
  induction h generalizing near xs with
  | nil =>
    cases hs
    exact .nil
  | @cons lo hi p e captures below fs es first children rest ih_children ih_rest =>
    obtain ⟨x, xs, n, rfl, hn, hcarries, hnearest, hchildren, hrest⟩ := hs.exists_of_cons
    have hkeeps : root.Keeps x.address := hordered.keeps x (by simp)
    obtain ⟨hlo, hhi⟩ := hscope x List.mem_cons_self
    have hshows : (ofTree root).Shows (root.offset x.address) e [] :=
      hcarries.shows hn hkeeps (hplain _ n hn)
    have hle : p ≤ root.offset x.address := by
      by_contra hlt
      exact first.least _ hlo (by omega) [] hshows
    have hplo := first.le
    refine .cons ?_ (ih_rest hrest hordered.tail ?_ ?_)
    · rw [NotBehind, Finding.flatten_eq, Source.flatten_eq]
      refine .cons hle ?_
      rcases Nat.lt_or_eq_of_le hle with hlt | rfl
      · -- all that is found below is in front of the node
        have habove := offset_lt_of_nearest hnearest hnear
        have hstop := stop_le_offset hcarries hn hkeeps
          (fun b hb hk => (habove b hb hk).trans_le hplo) hlt first.shows
        exact hchildren.forall₂_of_stop_le children hstop fun y hy =>
          hordered.lt y (List.mem_append_left _ hy)
      · -- the children are looked for where they stand
        apply forall₂_flattenList_of_notBehind
        apply ih_children hchildren hordered.children
        · exact hchildren.mem_scope hn hordered.children
        · intro c hc
          obtain rfl : x.address = c := Option.some.inj hc
          exact ⟨⟨n, hn⟩, Nat.lt_succ_self _⟩
    · intro y hy
      have hlt := hordered.lt y (List.mem_append_right _ (mem_flattenList_of_mem hy))
      have hhi' := (hscope y (List.mem_cons_of_mem _ hy)).2
      omega
    · intro c hc
      obtain ⟨hat, hlt⟩ := hnear c hc
      exact ⟨hat, by omega⟩

/-! ### The top of the page -/

/-- Elements side by side are made from their nodes each by itself. -/
theorem Sourced.forall₂_singleton (h : Sourced root near es xs) (hordered : Ordered root xs) :
    List.Forall₂ (fun e x => Sourced root near [e] [x] ∧ Ordered root [x]) es xs := by
  induction h with
  | nil => exact .nil
  | cons node carries nearest children _ _ ih =>
    exact .cons ⟨.cons node carries nearest children .nil, hordered.head⟩ (ih hordered.tail)

/-- An element shows at the node that it is made from. -/
theorem Sourced.shows {e : Element} {x : Source} (h : Sourced root near [e] [x])
    (hplain : Resolution.PlainScreen root) (hordered : Ordered root [x]) :
    (ofTree root).Shows (root.offset x.address) e [] := by
  obtain ⟨_, _, n, heq, hn, hcarries, -⟩ := h.exists_of_cons
  cases heq
  exact hcarries.shows hn (hordered.keeps x (by simp)) (hplain x.address n hn)

/-- A source stands on the screen. -/
theorem Keeps.offset_lt (h : root.Keeps a) : root.offset a < (ofTree root).size := by
  obtain ⟨⟨n, hn, -⟩, -⟩ := h
  have hle := offset_add_size_le hn
  have hpos := size_pos n
  rw [size_ofTree]
  omega

/-- An element at the top that has a place has it no later than it stands, if it is looked for
from there or from further in front. -/
theorem Sourced.notBehind {e : Element} {x : Source} {f : Finding}
    (h : Sourced root none [e] [x]) (hplain : Resolution.PlainScreen root)
    (hordered : Ordered root [x]) (hlo : lo ≤ root.offset x.address)
    (hplaced : Placed (ofTree root) lo (ofTree root).size [e] [f]) : root.NotBehind f x := by
  have hscope : ∀ y ∈ [x],
      lo ≤ root.offset y.address ∧ root.offset y.address < (ofTree root).size := by
    intro y hy
    obtain rfl := List.mem_singleton.mp hy
    exact ⟨hlo, (hordered.keeps y (by simp)).offset_lt⟩
  simpa using h.forall₂_notBehind hplain hplaced hordered hscope (by simp)

/-- The sources at the top stand one behind the other. -/
theorem Ordered.pairwise_offset (h : Ordered root xs) :
    (xs.map fun x => root.offset x.address).Pairwise (· < ·) := by
  induction xs with
  | nil => exact .nil
  | cons x xs ih =>
    rw [List.map_cons, List.pairwise_cons]
    refine ⟨?_, ih h.tail⟩
    intro p hp
    obtain ⟨y, hy, rfl⟩ := List.mem_map.mp hp
    exact h.lt y (List.mem_append_right _ (mem_flattenList_of_mem hy))

/-- The sources of an outline are kept and in order. -/
theorem Outlined.ordered (h : Outlined root es xs) : Ordered root xs := by
  have hoffset : ((root.addresses.filter fun a => root.Keeps a).map root.offset).Pairwise
      (· < ·) := by
    have hall : (root.addresses.map root.offset).Pairwise (· < ·) := by
      rw [map_offset_addresses]
      exact List.pairwise_lt_range
    exact hall.sublist (List.filter_sublist.map _)
  refine ⟨?_, ?_⟩
  · intro x hx
    have hmem : x.address ∈ root.addresses.filter fun a => root.Keeps a := by
      rw [← h.kept]
      exact List.mem_map_of_mem hx
    simpa using (List.mem_filter.mp hmem).2
  · rw [← h.kept, List.map_map] at hoffset
    exact hoffset

end Node

end

namespace Resolution

open Node

variable {root : Node}

section

variable {engine : Template.Engine}

/-- What becomes of a page that describes a screen when it is looked for on the same screen. -/
structure Rediscovered [Template.Engine] (root : Node) (es : List Expectation) (os : Outcomes)
    (xs : List Source) :
    Prop where
  read : Expectation.ofElements (describe root) = .ok es
  /-- The elements are the outline of the screen, made from these sources. -/
  outlined : Outlined root (describe root) xs
  page : os.map Prod.fst = describe root
  assigned : Assigned (ofTree root) 0 os
  search : search es root
    = (os.missing, ({} : Notes).addAll (ofTree root) (Finding.flattenList os.found))
  /-- An element with nothing below it is found, and what is found is found at the nodes that the
  elements were made from or further in front. -/
  notBehind : List.Forall₂ (fun o x => (o.1.children = [] → ∃ f, o.2 = some f) ∧
    ∀ f, o.2 = some f → root.NotBehind f x) os xs

/-- The description of a plain screen is read. -/
theorem exists_ofElements_describe (hplain : PlainScreen root) :
    ∃ es, Expectation.ofElements (describe root) = .ok es := by
  have hdescribe : describe root = describeList [root] := by
    rw [describeList, describeList, List.append_nil]
  rw [hdescribe]
  apply exists_ofElements_describeList
  intro q path d hd
  obtain ⟨a, ha, -, -⟩ := hd.exists_offset_eq
  exact hplain a d ha

/-- **A described page is found again at or before the nodes that it was described from**, but for
containers that are missing. -/
theorem describe_rediscovered (root : Node) (hplain : PlainScreen root) :
    ∃ es os xs, Rediscovered root es os xs := by
  obtain ⟨es, hread⟩ := exists_ofElements_describe hplain
  obtain ⟨os, hpage, hassigned, hsearch⟩ := exists_search_eq hread root
  obtain ⟨xs, hsourced, hkept⟩ := exists_sourced_describe root
  have houtlined := hsourced.outlined hkept
  refine ⟨es, os, xs, hread, houtlined, hpage, hassigned, hsearch, ?_⟩
  have hsingle := hsourced.forall₂_singleton houtlined.ordered
  rw [← hpage, List.forall₂_map_left_iff] at hsingle
  have hshows : List.Forall₂ (fun o p => ∃ c, (ofTree root).Shows p o.1 c) os
      (xs.map fun x => root.offset x.address) := by
    rw [List.forall₂_map_right_iff]
    apply hsingle.imp
    rintro o x ⟨hs, ho⟩
    exact ⟨[], hs.shows hplain ho⟩
  have hreached := hassigned.forall₂_reached hshows houtlined.ordered.pairwise_offset (by simp)
  rw [List.forall₂_map_right_iff] at hreached
  apply List.Forall₂.mp _ hsingle hreached
  rintro o x ⟨hs, ho⟩ ⟨hleaf, hfound⟩
  refine ⟨fun hnone => Option.ne_none_iff_exists'.mp (hleaf hnone), ?_⟩
  intro f hf
  obtain ⟨lo, hlo, hplaced⟩ := hfound f hf
  exact hs.notBehind hplain ho hlo hplaced

end

/-- A screen with a cell in the first of three cells.  The first two show the same text, which
comes once more behind the cells, and the last one holds a button. -/
def pantryScreen : Node :=
  let milk : Node := ⟨{ kind := .staticText, label := "Milk" }, none, none, []⟩
  let cell (children : List Node) : Node := ⟨{ kind := .cell }, none, none, children⟩
  ⟨{ kind := .application }, none, none,
    [ cell [cell [milk]], cell [milk],
      cell [⟨{ kind := .button, label := "Buy" }, none, none, []⟩], milk ]⟩

/-- The second cell of the sample screen is found at the inner one, and so are its text and the
last text; the third cell is missing. -/
theorem describe_rediscovered_pantry :
    PlainScreen pantryScreen ∧ ∃ es os xs, Rediscovered pantryScreen es os xs ∧
      (Finding.flattenList os.found).map Finding.position = [1, 2, 3, 2, 3, 3] ∧
      (Source.flattenList xs).map (fun x => pantryScreen.offset x.address)
        = [1, 2, 3, 4, 5, 6, 7, 8] := by
  have hplain : PlainScreen pantryScreen := plainScreen_of_braceless (by decide)
  obtain ⟨es, os, xs, h⟩ := describe_rediscovered pantryScreen hplain
  refine ⟨hplain, es, os, xs, h, ?_, ?_⟩
  · have hpositions : ((Expectation.ofElements (describe pantryScreen)).toOption.map fun es =>
        (search es pantryScreen).2.sightings.map Sighting.position)
          = some [1, 2, 3, 2, 3, 3] := by decide +kernel
    have hnoted := congrArg (List.map fun x => x.2.1)
      (Notes.map_sightings_addAll {} (ofTree pantryScreen) (Finding.flattenList os.found))
    rw [h.read, Except.toOption, Option.map_some, h.search, Option.some.injEq] at hpositions
    simpa [Function.comp_def, hpositions] using hnoted.symm
  · have hkept := congrArg (List.map pantryScreen.offset) h.outlined.kept
    rw [List.map_map] at hkept
    refine Eq.trans hkept ?_
    decide +kernel

end Resolution

end ScreenPages
