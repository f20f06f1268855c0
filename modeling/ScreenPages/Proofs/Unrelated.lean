import Mathlib.Logic.Relation
import ScreenPages.Proofs.Insertion
import ScreenPages.Proofs.Numbering

/-!
# Unrelated content

A page does not see what it does not ask for.  If trees none of whose nodes is as any of its
elements asks are put into a screen, its resolution stays as it was.

Both searches are compared by the rule of placement.  The snapshot before is held by the one
after, and a scope before has a scope after that lets the same of the old nodes in; what else
it lets in shows nothing.  So each place before goes to a place after, and each gap to a gap,
and as the rule leaves no choice these are what the search after finds.

## Main definitions

* `Node.Inserted` — a tree is put below a node of another one.
* `Unrelated` — no node of a tree is as any element of a page asks.
* `Snapshot.Hidden` — what one snapshot holds besides another one shows nothing.

## Main results

* `Placed.hidden`, `Gap.hidden`, `Assigned.hidden` — places and gaps after from those before.
* `Resolution.ofPage_eq_of_grown` — unrelated content leaves a resolution as it was.
-/

namespace ScreenPages

section

variable {engine : Template.Engine}

/-- A tree is put below a node of another one, in front of, between or behind its children. -/
def Node.Inserted (u n m : Node) : Prop :=
  ∃ p ms, Replaced [] u p n.children ms ∧ m = { n with children := ms }

/-- No node of a tree is as any element in or below a page asks of the node itself. -/
def Unrelated [Template.Engine] (page : List Element) (u : Node) : Prop :=
  ∀ a m, u.at? a = some m → ∀ e ∈ Element.flattenList page, ∀ c, ¬ e.Matches m.step c

/-- A screen has one more tree that is unrelated to a page. -/
def Grown [Template.Engine] (page : List Element) (n m : Node) : Prop :=
  ∃ u, Unrelated page u ∧ Node.Inserted u n m

/-! ### What is hidden from some elements -/

/-- A snapshot holds another one, and the nodes that it holds besides are not as any of some
elements asks.  Paths are the same. -/
structure Snapshot.Hidden [Template.Engine] (s t : Snapshot) (f : Nat → Nat) (es : List Element) :
    Prop
    extends Snapshot.Embeds s t f where
  path : ∀ q < s.size, t.path (f q) = s.path q
  /-- What is new shows none of the elements. -/
  hides : ∀ r, (∀ q, f q ≠ r) → ∀ e ∈ es, ∀ c, ¬ t.Shows r e c

/-- A finding is for the same element as another one, on the node that the node of that one
has become. -/
structure Finding.Moved (f : Nat → Nat) (x y : Finding) : Prop where
  identity : y.identity = x.identity
  position : y.position = f x.position
  captures : y.captures = x.captures

section Hidden

variable {s t : Snapshot} {f : Nat → Nat} {es page : List Element} {lo hi lo' hi' : Nat}

/-- A node that is still there shows what it showed before. -/
theorem Snapshot.Embeds.shows_iff (h : s.Embeds t f) {q : Nat} {e : Element} {c : List Capture} :
    t.Shows (f q) e c ↔ s.Shows q e c := by
  constructor
  · intro hshows
    obtain ⟨old, new, hold, hnew, hstep, -, -⟩ := h.entry q ((h.lt_size q).mp hshows.lt_size)
    rw [shows_iff_of_entry hnew, hstep] at hshows
    exact (shows_iff_of_entry hold).mpr hshows
  · intro hshows
    obtain ⟨old, new, hold, hnew, hstep, -, -⟩ := h.entry q hshows.lt_size
    rw [shows_iff_of_entry hold, ← hstep] at hshows
    exact (shows_iff_of_entry hnew).mpr hshows

/-- Nodes behind a node are behind it after an insertion, too. -/
theorem Snapshot.Embeds.succ_le_iff (h : s.Embeds t f) (p q : Nat) : f p + 1 ≤ f q ↔ p + 1 ≤ q :=
  h.strictMono.lt_iff_lt

/-- A scope in which no node is as an element asks corresponds to such a scope. -/
theorem Snapshot.Hidden.nowhere (h : s.Hidden t f page) (hlo : ∀ q, lo' ≤ f q ↔ lo ≤ q)
    (hhi : ∀ q, f q < hi' ↔ q < hi) {e : Element} (he : e ∈ page)
    (hnone : ∀ p, lo ≤ p → p < hi → ∀ c, ¬ s.Shows p e c) :
    ∀ p, lo' ≤ p → p < hi' → ∀ c, ¬ t.Shows p e c := by
  intro r hr hr' c hshows
  -- a node of the new scope was there before, or it is hidden
  by_cases hold : ∃ q, f q = r
  · obtain ⟨q, rfl⟩ := hold
    exact hnone q ((hlo q).mp hr) ((hhi q).mp hr') c (h.shows_iff.mp hshows)
  · exact h.hides r (fun q hq => hold ⟨q, hq⟩) e he c hshows

/-- The first node in a scope is the first in the corresponding one. -/
theorem Snapshot.First.hidden {e : Element} {p : Nat} {c : List Capture}
    (hfirst : s.First lo hi e p c) (h : s.Hidden t f page) (hlo : ∀ q, lo' ≤ f q ↔ lo ≤ q)
    (hhi : ∀ q, f q < hi' ↔ q < hi) (he : e ∈ page) : t.First lo' hi' e (f p) c where
  le := (hlo p).mpr hfirst.le
  lt := (hhi p).mpr hfirst.lt
  shows := h.shows_iff.mpr hfirst.shows
  least := h.nowhere hlo (fun _ => h.strictMono.lt_iff_lt) he hfirst.least

/-- **Places go to places.** -/
theorem Placed.hidden {fs : List Finding} (hplaced : Placed s lo hi es fs)
    (h : s.Hidden t f page) (hlo : ∀ q, lo' ≤ f q ↔ lo ≤ q) (hhi : ∀ q, f q < hi' ↔ q < hi)
    (hes : Element.flattenList es ⊆ page) :
    ∃ gs, Placed t lo' hi' es gs ∧
      List.Forall₂ (Finding.Moved f) (Finding.flattenList fs) (Finding.flattenList gs) := by
  induction hplaced generalizing lo' hi' with
  | nil => exact ⟨[], .nil, by simp⟩
  | @cons lo hi p e c below fs es first children rest ih_children ih_rest =>
    rw [Element.flattenList_cons, List.cons_subset, List.append_subset] at hes
    obtain ⟨he, hbelow, hbehind⟩ := hes
    obtain ⟨below', hchildren', hmoved⟩ := ih_children (h.succ_le_iff p)
      (h.lt_stop p first.shows.lt_size) hbelow
    obtain ⟨gs, hrest', hmoved'⟩ := ih_rest (h.succ_le_iff p) hhi hbehind
    refine ⟨_, .cons (first.hidden h hlo hhi he) hchildren' hrest', ?_⟩
    rw [Finding.flattenList_cons, Finding.flattenList_cons]
    exact .cons ⟨rfl, rfl, rfl⟩ (List.rel_append hmoved hmoved')

/-- **Gaps go to gaps.** -/
theorem Gap.hidden (hgap : Gap s lo hi es) (h : s.Hidden t f page)
    (hlo : ∀ q, lo' ≤ f q ↔ lo ≤ q) (hhi : ∀ q, f q < hi' ↔ q < hi)
    (hes : Element.flattenList es ⊆ page) : Gap t lo' hi' es := by
  induction hgap generalizing lo' hi' with
  | nowhere hnone =>
    rw [Element.flattenList_cons, List.cons_subset] at hes
    exact .nowhere (h.nowhere hlo hhi hes.1 hnone)
  | @within lo hi p e c es first _ ih =>
    rw [Element.flattenList_cons, List.cons_subset, List.append_subset] at hes
    obtain ⟨he, hbelow, -⟩ := hes
    exact .within (first.hidden h hlo hhi he)
      (ih (h.succ_le_iff p) (h.lt_stop p first.shows.lt_size) hbelow)
  | @behind lo hi p e c below es first children _ ih =>
    rw [Element.flattenList_cons, List.cons_subset, List.append_subset] at hes
    obtain ⟨he, hbelow, hbehind⟩ := hes
    obtain ⟨below', hchildren', -⟩ := children.hidden h (h.succ_le_iff p)
      (h.lt_stop p first.shows.lt_size) hbelow
    exact .behind (first.hidden h hlo hhi he) hchildren' (ih (h.succ_le_iff p) hhi hbehind)

/-- **What becomes of a page is the same after the insertion.** -/
theorem Assigned.hidden {os : Outcomes} (hassigned : Assigned s lo os) (h : s.Hidden t f page)
    (hlo : ∀ q, lo' ≤ f q ↔ lo ≤ q) (hes : Element.flattenList (os.map Prod.fst) ⊆ page) :
    ∃ os' : Outcomes, Assigned t lo' os' ∧ os'.map Prod.fst = os.map Prod.fst ∧
      os'.missing = os.missing ∧
      List.Forall₂ (Finding.Moved f) (Finding.flattenList os.found)
        (Finding.flattenList os'.found) := by
  induction hassigned generalizing lo' with
  | nil => exact ⟨[], .nil, rfl, rfl, by simp⟩
  | @cons lo e outcome rest found missing behind ih =>
    rw [List.map_cons, Element.flattenList_cons, List.cons_subset, List.append_subset] at hes
    obtain ⟨he, hbelow, hbehind⟩ := hes
    have hthis : Element.flattenList [e] ⊆ page := by
      rw [Element.flattenList_cons, Element.flattenList_nil, List.append_nil, List.cons_subset]
      exact ⟨he, hbelow⟩
    cases outcome with
    | none =>
      obtain ⟨os', hassigned', hpage, hmissing, hmoved⟩ := ih hlo hbehind
      have hgap := (missing.mp rfl).hidden h hlo h.lt_size hthis
      refine ⟨(e, none) :: os', .cons_gap hgap hassigned', ?_, ?_, hmoved⟩
      · rw [List.map_cons, List.map_cons, hpage]
      · rw [Outcomes.missing_none, Outcomes.missing_none, hmissing]
    | some x =>
      obtain ⟨ys, hplaced, hmoved⟩ := ((found x).mp rfl).hidden h hlo h.lt_size hthis
      obtain ⟨y, rfl⟩ : ∃ y, ys = [y] := by
        obtain _ | ⟨_, _, rest⟩ := hplaced
        cases rest
        exact ⟨_, rfl⟩
      have hposition : y.position = f x.position := by
        rw [Finding.flattenList_cons, Finding.flattenList_cons] at hmoved
        cases hmoved with
        | cons hxy _ => exact hxy.position
      -- the next element is looked for behind the node of this one, before and after
      have hnext := h.succ_le_iff x.position
      rw [← hposition] at hnext
      obtain ⟨os', hassigned', hpage, hmissing, hmoved'⟩ := ih hnext hbehind
      refine ⟨(e, some y) :: os', .cons_placed hplaced hassigned', ?_, hmissing, ?_⟩
      · rw [List.map_cons, List.map_cons, hpage]
      · have hall := List.rel_append hmoved hmoved'
        simpa using hall

end Hidden

/-! ### What the search notes -/

namespace Notes

/-- Notes tell the same as others of elements and their locations. -/
structure Agree (n m : Notes) : Prop where
  locations : n.sightings.map (fun x => (x.identity, x.location))
    = m.sightings.map fun x => (x.identity, x.location)
  captures : n.captures = m.captures

theorem Agree.refl (n : Notes) : n.Agree n := ⟨rfl, rfl⟩

theorem Agree.occurrences_eq {n m : Notes} (h : n.Agree m) (path : List Step) :
    occurrences n.sightings path = occurrences m.sightings path := by
  have hcount := congrArg (List.countP fun x => x.2.path == path) h.locations
  rw [List.countP_map, List.countP_map] at hcount
  exact hcount

/-- The same findings are noted in the same way. -/
theorem Agree.addAll {s t : Snapshot} {f : Nat → Nat} {es : List Element} {n m : Notes}
    {fs gs : List Finding} (h : n.Agree m) (hhidden : s.Hidden t f es)
    (hmoved : List.Forall₂ (Finding.Moved f) fs gs) (hfs : ∀ x ∈ fs, x.position < s.size) :
    (n.addAll s fs).Agree (m.addAll t gs) := by
  induction hmoved generalizing n m with
  | nil => exact h
  | @cons x y fs gs hxy _ ih =>
    rw [addAll_cons, addAll_cons]
    refine ih ⟨?_, ?_⟩ fun z hz => hfs z (List.mem_cons_of_mem x hz)
    · simp only [add, List.map_append, List.map_cons, List.map_nil]
      rw [h.locations, hxy.identity, hxy.position,
        hhidden.path _ (hfs x List.mem_cons_self), h.occurrences_eq]
    · simp only [add]
      rw [h.captures, hxy.captures]

end Notes

end

/-! ### Resolutions -/

namespace Resolution

section

variable {engine : Template.Engine}

/-- The nodes of what is found lie in the snapshot. -/
theorem position_lt_size {s : Snapshot} {bound : Nat} {os : Outcomes} (h : Assigned s bound os) :
    ∀ x ∈ Finding.flattenList os.found, x.position < s.size := by
  intro x hx
  obtain ⟨e, -, hsuits⟩ := h.forall₂_flattenList.exists_of_mem_right x hx
  exact hsuits.shows.lt_size

/-- A page is resolved in the same way on a snapshot that holds another one and hides the
rest. -/
theorem ofPage_eq_of_hidden {page : List Element} {xs : List Expectation}
    (hread : Expectation.ofElements page = .ok xs) {n m : Node} {f : Nat → Nat}
    (h : (Snapshot.ofTree n).Hidden (Snapshot.ofTree m) f (Element.flattenList page)) :
    ofPage xs (some m) = ofPage xs (some n) := by
  obtain ⟨os, hpage, hassigned, hsearch⟩ := exists_search_eq hread n
  obtain ⟨os', hpage', hassigned', hsearch'⟩ := exists_search_eq hread m
  have hwhole : ∀ q, 0 ≤ f q ↔ 0 ≤ q := fun q => iff_of_true (Nat.zero_le _) (Nat.zero_le _)
  obtain ⟨os'', hafter, hsame, hmissing, hmoved⟩ :=
    hassigned.hidden h hwhole (by rw [hpage]; exact List.Subset.refl _)
  obtain rfl : os' = os'' := hassigned'.unique hafter (by rw [hpage', hsame, hpage])
  have hagree := (Notes.Agree.refl {}).addAll h hmoved (position_lt_size hassigned)
  rw [ofPage_some, ofPage_some, hsearch, hsearch', hagree.locations, hagree.captures, hmissing]

/-- A tree that is put into a screen is hidden from the elements that it is unrelated to. -/
theorem hidden_of_inserted {page : List Element} {u n m : Node} (hu : Unrelated page u)
    (h : Node.Inserted u n m) :
    ∃ f, (Snapshot.ofTree n).Hidden (Snapshot.ofTree m) f (Element.flattenList page) := by
  obtain ⟨p, ms, hreplaced, rfl⟩ := h
  have haround := Node.around_nil u
  refine ⟨shift (p + 1) u.size, Snapshot.embeds_of_replaced hreplaced haround, ?_, ?_⟩
  · intro q hq
    exact (Snapshot.path_of_replaced hreplaced haround hq).widened.eq_of_nil
  · intro r hnew e he c hshows
    -- a position that no old node has is one of the new tree
    rcases exists_shift_eq_or (p + 1) u.size r with ⟨q, hq⟩ | ⟨hlow, hhigh⟩
    · exact hnew q hq
    · obtain ⟨path, x, hx⟩ := Node.exists_stands_ofTree hshows.lt_size
      obtain ⟨path', hx'⟩ := Snapshot.exists_stands_of_replaced hreplaced hx hlow hhigh
      obtain ⟨a, ha, -, -⟩ := hx'.exists_offset_eq
      obtain ⟨entry, hentry, hstep, -, -⟩ := hx.entry?_eq
      rw [Snapshot.shows_iff_of_entry hentry, hstep] at hshows
      exact hu a x ha e he c hshows

/-- **Unrelated content is invisible.**  When any trees that are unrelated to a page are put
below any nodes of a screen, the page is resolved as before: the same elements are found at the
same locations, with the same values, and the same elements are missing. -/
theorem ofPage_eq_of_grown {page : List Element} {xs : List Expectation}
    (hread : Expectation.ofElements page = .ok xs) {n m : Node}
    (h : Relation.ReflTransGen (Grown page) n m) :
    ofPage xs (some m) = ofPage xs (some n) := by
  induction h with
  | refl => rfl
  | tail _ hgrown ih =>
    obtain ⟨u, hu, hinserted⟩ := hgrown
    obtain ⟨f, hhidden⟩ := hidden_of_inserted hu hinserted
    rw [ofPage_eq_of_hidden hread hhidden, ih]

end

/-- A badge, which has the label of a text of the sample page but is an image. -/
def sampleBadge : Node :=
  ⟨{ kind := .other, identifier := "ok" }, none, none,
    [⟨{ kind := .image, label := "Milk" }, none, none, []⟩]⟩

/-- The sample screen with badges in front of the first text and in the cell. -/
def badgedScreen : Node :=
  ⟨{ kind := .application }, none, none,
    [ ⟨{ kind := .button, identifier := "ok", label := "OK" }, none, none, []⟩,
      sampleBadge,
      ⟨{ kind := .staticText, label := "Total" }, none, none, []⟩,
      ⟨{ kind := .cell }, none, none,
        [sampleBadge, ⟨{ kind := .staticText, label := "Milk" }, none, none, []⟩]⟩,
      ⟨{ kind := .button, identifier := "ok", label := "OK" }, none, none, []⟩ ]⟩

/-- The sample page asks for no generic containers and no images. -/
theorem unrelated_sampleBadge : Unrelated samplePage sampleBadge := by
  intro a m hm e he c h
  have hbadge : m.step.kind = .other ∨ m.step.kind = .image := by
    cases a with
    | nil =>
      cases hm
      exact .inl rfl
    | cons i a =>
      obtain ⟨n, hn, hm⟩ := Node.at?_cons_eq_some_iff.mp hm
      obtain ⟨rfl, rfl⟩ : i = 0 ∧ n = ⟨{ kind := .image, label := "Milk" }, none, none, []⟩ := by
        cases i with
        | zero =>
          cases hn
          exact ⟨rfl, rfl⟩
        | succ i => cases hn
      cases a with
      | nil =>
        cases hm
        exact .inr rfl
      | cons j a => cases hm
  have hpage : ∀ e ∈ Element.flattenList samplePage,
      e.kind ≠ .any ∧ e.kind ≠ .other ∧ e.kind ≠ .image := by decide
  obtain ⟨hany, hother, himage⟩ := hpage e he
  rcases h.kind with hkind | hkind
  · exact hany hkind
  · rcases hbadge with hm | hm
    · exact hother (hkind.trans hm)
    · exact himage (hkind.trans hm)

/-- The sample page does not see the badges. -/
theorem ofPage_eq_of_grown_badged :
    Relation.ReflTransGen (Grown samplePage) sampleScreen badgedScreen ∧
      ofPage sampleExpectations (some badgedScreen)
        = ofPage sampleExpectations (some sampleScreen) := by
  have hfirst : Node.Inserted sampleBadge sampleScreen
      { sampleScreen with children := sampleScreen.children.insertIdx 1 sampleBadge } :=
    ⟨_, _, .behind (.here _), rfl⟩
  have hsecond : Node.Inserted sampleBadge
      { sampleScreen with children := sampleScreen.children.insertIdx 1 sampleBadge }
      badgedScreen :=
    ⟨_, _, .behind (.behind (.behind (.inner (.here _)))), rfl⟩
  have hgrown : Relation.ReflTransGen (Grown samplePage) sampleScreen badgedScreen :=
    .tail (.single ⟨sampleBadge, unrelated_sampleBadge, hfirst⟩)
      ⟨sampleBadge, unrelated_sampleBadge, hsecond⟩
  exact ⟨hgrown, ofPage_eq_of_grown ofElements_samplePage hgrown⟩

end Resolution

end ScreenPages
