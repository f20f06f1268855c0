import ScreenPages.Proofs.Placement

/-!
# The search follows the rule

The search takes notes while it tries candidates, and takes them back when a child of a
candidate is missing.  Seen from outside nothing of this is left: it notes the findings that
the rule of placement gives, in document order, and an element without a place leaves neither
a note nor a trace in the scope of the next one.

## Main definitions

* `Notes.Before` — what was noted is still there.
* `Notes.addAll` — noting some findings in order.
* `Expectation.Sought`, `Expectation.SoughtAll` — what the search has to answer.
* `Resolution.Greedy` — what the search for a page has to answer.

## Main results

* `Matcher.first_eq_some_iff` — what a matcher finds is the first node in its scope.
* `Notes.Before.cut_eq` — cutting the notes back undoes all that was noted since.
* `Expectation.seek_sought`, `Expectation.seekAll_sought` — the search follows the rule.
* `Resolution.exists_search_eq` — the outcomes for a whole page, and the notes they leave.
* `Resolution.search_greedy` — the search for a page said without the search.
-/

namespace ScreenPages

variable {s : Snapshot}

section

variable {engine : Template.Engine}

/-! ### The first match -/

namespace Matcher

variable {e : Element} {m : Matcher}

/-- A node is tested for what an element asks. -/
theorem bind_capture_eq_some_iff (h : ofElement e = .ok m) {p : Nat} {captures : List Capture} :
    ((s.entry? p).bind fun entry => m.capture entry.step) = some captures
      ↔ s.Shows p e captures := by
  simp only [Option.bind_eq_some_iff, capture_eq_some_iff h]
  exact Iff.rfl

/-- A test fails exactly if the node is not as the element asks, whatever the values. -/
theorem bind_capture_eq_none_iff (h : ofElement e = .ok m) {p : Nat} :
    ((s.entry? p).bind fun entry => m.capture entry.step) = none ↔ ∀ c, ¬ s.Shows p e c := by
  rw [Option.eq_none_iff_forall_ne_some]
  exact forall_congr' fun c => not_congr (bind_capture_eq_some_iff h)

/-- A matcher finds nothing exactly if no node in its scope is as its element asks. -/
theorem first_eq_none_iff (h : ofElement e = .ok m) {n lo : Nat} :
    m.first s (List.range' lo n) = none
      ↔ ∀ p, lo ≤ p → p < lo + n → ∀ c, ¬ s.Shows p e c := by
  induction n generalizing lo with
  | zero =>
    simp only [List.range'_zero, first, true_iff]
    intro p hlo hhi
    omega
  | succ n ih =>
    rw [List.range'_succ, first]
    cases hcap : (s.entry? lo).bind fun entry => m.capture entry.step with
    | some captures =>
      simp only [reduceCtorEq, false_iff]
      intro hnone
      exact hnone lo (Nat.le_refl lo) (by omega) captures ((bind_capture_eq_some_iff h).mp hcap)
    | none =>
      -- the first node of the scope does not match, so it is the scope behind it that counts
      rw [ih]
      constructor
      · intro hnone p hlo hhi c
        rcases Nat.eq_or_lt_of_le hlo with rfl | hlt
        · exact (bind_capture_eq_none_iff h).mp hcap c
        · exact hnone p hlt (by omega) c
      · intro hnone p hlo hhi
        exact hnone p (by omega) (by omega)

/-- What a matcher finds is the first node in its scope that is as its element asks. -/
theorem first_eq_some_iff (h : ofElement e = .ok m) {n lo p : Nat} {captures : List Capture} :
    m.first s (List.range' lo n) = some (p, captures) ↔ s.First lo (lo + n) e p captures := by
  induction n generalizing lo with
  | zero =>
    simp only [List.range'_zero, first, reduceCtorEq, false_iff]
    intro hfirst
    have := hfirst.le
    have := hfirst.lt
    omega
  | succ n ih =>
    rw [List.range'_succ, first]
    cases hcap : (s.entry? lo).bind fun entry => m.capture entry.step with
    | some c =>
      have hshows := (bind_capture_eq_some_iff h).mp hcap
      have hlo : s.First lo (lo + (n + 1)) e lo c :=
        ⟨Nat.le_refl lo, by omega, hshows, fun q hq hlt => absurd hlt (by omega)⟩
      simp only [Option.some.injEq, Prod.mk.injEq]
      constructor
      · rintro ⟨rfl, rfl⟩
        exact hlo
      · exact hlo.unique
    | none =>
      have hnot := (bind_capture_eq_none_iff h).mp hcap
      rw [ih]
      constructor
      · intro hfirst
        have hle := hfirst.le
        have hlt := hfirst.lt
        refine ⟨by omega, by omega, hfirst.shows, ?_⟩
        intro q hq hlt
        rcases Nat.eq_or_lt_of_le hq with rfl | hq
        · exact hnot
        · exact hfirst.least q hq hlt
      · intro hfirst
        have hlt := hfirst.lt
        have hne : lo ≠ p := by
          rintro rfl
          exact hnot captures hfirst.shows
        have hle : lo + 1 ≤ p := Nat.lt_of_le_of_ne hfirst.le hne
        exact ⟨hle, by omega, hfirst.shows, fun q hq => hfirst.least q (by omega)⟩

end Matcher

/-! ### What is read from a page -/

namespace Expectation

/-- The parts of the expectation that an element is read as. -/
theorem ofElement_eq_ok {e : Element} {x : Expectation} (h : ofElement e = .ok x) :
    x.element = e ∧ Matcher.ofElement e = .ok x.own ∧
      e.children.mapM Matcher.ofElement = .ok x.preview ∧
      ofElements e.children = .ok x.children := by
  obtain ⟨identity, kind, identifier, label, value, children⟩ := e
  rw [ofElement] at h
  obtain ⟨own, hown, h⟩ := Except.exists_of_bind_eq_ok h
  obtain ⟨preview, hpreview, h⟩ := Except.exists_of_bind_eq_ok h
  obtain ⟨below, hbelow, h⟩ := Except.exists_of_bind_eq_ok h
  cases h
  exact ⟨rfl, hown, hpreview, hbelow⟩

/-- Elements are read one after the other. -/
theorem ofElements_cons_eq_ok {e : Element} {es : List Element} {xs : List Expectation}
    (h : ofElements (e :: es) = .ok xs) :
    ∃ y ys, xs = y :: ys ∧ ofElement e = .ok y ∧ ofElements es = .ok ys := by
  rw [ofElements] at h
  obtain ⟨y, hy, h⟩ := Except.exists_of_bind_eq_ok h
  obtain ⟨ys, hys, h⟩ := Except.exists_of_bind_eq_ok h
  cases h
  exact ⟨y, ys, rfl, hy, hys⟩

/-- No elements are read as no expectations. -/
theorem ofElements_nil_eq_ok {xs : List Expectation} (h : ofElements [] = .ok xs) : xs = [] := by
  rw [ofElements] at h
  cases h
  rfl

end Expectation

/-- Each matcher of a preview is read from one of the elements. -/
theorem Matcher.exists_of_mem_mapM {es : List Element} {ms : List Matcher}
    (h : es.mapM ofElement = .ok ms) : ∀ m ∈ ms, ∃ e ∈ es, ofElement e = .ok m := by
  induction es generalizing ms with
  | nil =>
    cases h
    intro m hm
    cases hm
  | cons e es ih =>
    rw [List.mapM_cons] at h
    obtain ⟨y, hy, h⟩ := Except.exists_of_bind_eq_ok h
    obtain ⟨ys, hys, h⟩ := Except.exists_of_bind_eq_ok h
    cases h
    intro m hm
    rcases List.mem_cons.mp hm with rfl | hm
    · exact ⟨e, List.mem_cons_self, hy⟩
    · obtain ⟨e', he', hread⟩ := ih hys m hm
      exact ⟨e', List.mem_cons_of_mem e he', hread⟩

/-- If elements have places below a node, the preview of them below that node succeeds. -/
theorem Placed.preview {p : Nat} {es : List Element} {fs : List Finding} {ms : List Matcher}
    (h : Placed s (p + 1) (s.stop p) es fs) (hread : es.mapM Matcher.ofElement = .ok ms) :
    (ms.all fun m => m.occursBelow s p) = true := by
  rw [List.all_eq_true]
  intro m hm
  obtain ⟨e, he, hm⟩ := Matcher.exists_of_mem_mapM hread m hm
  obtain ⟨q, c, hlo, hhi, hshows⟩ := h.exists_shows e he
  rw [Matcher.occursBelow, Snapshot.subtree, Option.isSome_iff_ne_none]
  intro hnone
  exact (Matcher.first_eq_none_iff hm).mp hnone q hlo (by omega) c hshows

/-! ### Notes -/

namespace Notes

variable {n m : Notes}

/-- What was noted first is still there, in front of what was noted since. -/
structure Before (n m : Notes) : Prop where
  sightings : n.sightings <+: m.sightings
  captures : n.captures <+: m.captures

@[refl] theorem Before.refl (n : Notes) : n.Before n := ⟨List.prefix_rfl, List.prefix_rfl⟩

theorem Before.trans {l : Notes} (h₁ : l.Before n) (h₂ : n.Before m) : l.Before m :=
  ⟨h₁.sightings.trans h₂.sightings, h₁.captures.trans h₂.captures⟩

theorem before_add (n : Notes) (s : Snapshot) (i : Identity) (p : Nat) (captures : List Capture) :
    n.Before (n.add s i p captures) :=
  ⟨List.prefix_append _ _, List.prefix_append _ _⟩

/-- **Cutting the notes back undoes all that was noted since.** -/
theorem Before.cut_eq (h : n.Before m) : m.cut n.sightings.length n.captures.length = n := by
  rw [cut, ← List.prefix_iff_eq_take.mp h.sightings, ← List.prefix_iff_eq_take.mp h.captures]

/-- Notes some findings in order. -/
def addAll (n : Notes) (s : Snapshot) (fs : List Finding) : Notes :=
  fs.foldl (fun n f => n.add s f.identity f.position f.captures) n

@[simp] theorem addAll_nil (n : Notes) (s : Snapshot) : n.addAll s [] = n := rfl

@[simp] theorem addAll_cons (n : Notes) (s : Snapshot) (f : Finding) (fs : List Finding) :
    n.addAll s (f :: fs) = (n.add s f.identity f.position f.captures).addAll s fs := rfl

@[simp] theorem addAll_append (n : Notes) (s : Snapshot) (fs gs : List Finding) :
    n.addAll s (fs ++ gs) = (n.addAll s fs).addAll s gs :=
  List.foldl_append

theorem before_addAll (n : Notes) (s : Snapshot) (fs : List Finding) :
    n.Before (n.addAll s fs) := by
  induction fs generalizing n with
  | nil => rfl
  | cons f fs ih => exact (n.before_add s _ _ _).trans (ih _)

/-- Each finding is noted with its node and the path of the node. -/
theorem map_sightings_addAll (n : Notes) (s : Snapshot) (fs : List Finding) :
    (n.addAll s fs).sightings.map (fun x => (x.identity, x.position, x.location.path))
      = n.sightings.map (fun x => (x.identity, x.position, x.location.path))
        ++ fs.map fun f => (f.identity, f.position, s.path f.position) := by
  induction fs generalizing n with
  | nil => simp
  | cons f fs ih =>
    rw [addAll_cons, ih]
    simp [add]

/-- Each finding adds the values that it captures. -/
theorem captures_addAll (n : Notes) (s : Snapshot) (fs : List Finding) :
    (n.addAll s fs).captures = n.captures ++ fs.flatMap Finding.captures := by
  induction fs generalizing n with
  | nil => simp
  | cons f fs ih =>
    rw [addAll_cons, ih]
    simp [add]

end Notes

/-! ### The search for elements -/

namespace Expectation

/-- What the search for an element answers: where the search goes on and the notes with all
that was found, or the notes as they were. -/
inductive Sought [Template.Engine] (s : Snapshot) (lo hi : Nat) (e : Element) (n : Notes) :
    Option Nat × Notes → Prop
  | placed {f : Finding} (h : Placed s lo hi [e] [f]) :
      Sought s lo hi e n (some (f.position + 1), n.addAll s (Finding.flattenList [f]))
  | gap (h : Gap s lo hi [e]) : Sought s lo hi e n (none, n)

/-- What the search for all of some elements answers: the notes with all that was found, or
notes in which something may be left of elements in front of the gap. -/
inductive SoughtAll [Template.Engine] (s : Snapshot) (lo hi : Nat) (es : List Element) (n : Notes) :
    Bool × Notes → Prop
  | placed {fs : List Finding} (h : Placed s lo hi es fs) :
      SoughtAll s lo hi es n (true, n.addAll s (Finding.flattenList fs))
  | gap {later : Notes} (h : Gap s lo hi es) (before : n.Before later) :
      SoughtAll s lo hi es n (false, later)

/-- A candidate is accepted or taken back as the search for its children answers. -/
theorem seek_of_first {e : Element} {x : Expectation} {start stop bound p : Nat}
    {captures : List Capture} {n : Notes} (hread : ofElement e = .ok x)
    (hfirst : s.First (max start bound) stop e p captures)
    (hbelow : SoughtAll s (p + 1) (s.stop p) e.children (n.add s e.identity p captures)
      (seekAll s (p + 1) (s.stop p) (Snapshot.index p) (n.add s e.identity p captures)
        x.children)) :
    Sought s (max start bound) stop e n (x.seek s start stop bound n) := by
  obtain ⟨helement, hown, hpreview, hchildren⟩ := ofElement_eq_ok hread
  subst helement
  have hlt := hfirst.lt
  have hle := hfirst.le
  have hcand : x.own.first s (List.range' (max start bound) (stop - max start bound))
      = some (p, captures) := by
    rw [Matcher.first_eq_some_iff hown, Nat.add_sub_cancel' (by omega)]
    exact hfirst
  obtain ⟨e, own, preview, children⟩ := x
  simp only at hown hpreview hchildren hfirst hcand hbelow ⊢
  simp only [seek, hcand]
  generalize hall : seekAll s (p + 1) (s.stop p) (Snapshot.index p)
    (n.add s e.identity p captures) children = answer at hbelow ⊢
  cases hbelow with
  | @placed fs h =>
    -- children that have places occur below the node, so the preview does not refuse them
    have hsought := Sought.placed (n := n) (Placed.cons hfirst h .nil)
    simp only [Finding.flattenList_cons, Finding.flattenList_nil, List.append_nil,
      Notes.addAll_cons] at hsought
    rw [h.preview hpreview]
    by_cases hempty : children.isEmpty
    · rw [List.isEmpty_iff] at hempty
      subst hempty
      rw [seekAll] at hall
      rw [Prod.mk.injEq] at hall
      rw [← hall.2] at hsought
      simpa [Snapshot.index] using hsought
    · simpa [hempty, Snapshot.index] using hsought
  | @gap later h hbefore =>
    -- a child is missing: the candidate is taken back, whether the preview refused it or not
    have hbefore := (n.before_add s e.identity p captures).trans hbefore
    have hsought : Sought s (max start bound) stop e n (none, n) := .gap (.within hfirst h)
    have hempty : children.isEmpty = false := by
      rw [Bool.eq_false_iff]
      intro hempty
      rw [List.isEmpty_iff.mp hempty, seekAll] at hall
      cases hall
    by_cases hsome : (preview.all fun m => m.occursBelow s p) = true
    · simpa [hempty, hsome, hbefore.cut_eq] using hsought
    · simpa [hempty, hsome, (n.before_add s e.identity p captures).cut_eq] using hsought

mutual

/-- **The search for an element follows the rule.** -/
theorem seek_sought (start stop bound : Nat) (n : Notes) :
    (e : Element) → {x : Expectation} → ofElement e = .ok x →
      Sought s (max start bound) stop e n (x.seek s start stop bound n)
  | ⟨identity, kind, identifier, label, value, children⟩, x, hread => by
    obtain ⟨-, hown, -, hchildren⟩ := ofElement_eq_ok hread
    cases hcand : x.own.first s
        (List.range' (max start bound) (stop - max start bound)) with
    | none =>
      have hnone := (Matcher.first_eq_none_iff hown).mp hcand
      obtain ⟨e, own, preview, below⟩ := x
      simp only at hcand
      rw [seek]
      simp only [hcand]
      exact .gap (.nowhere fun p hlo hhi => hnone p hlo (by omega))
    | some candidate =>
      obtain ⟨p, captures⟩ := candidate
      have hfirst := (Matcher.first_eq_some_iff hown).mp hcand
      have hle := hfirst.le
      have hlt := hfirst.lt
      rw [Nat.add_sub_cancel' (by omega)] at hfirst
      have hbelow := seekAll_sought (p + 1) (s.stop p) (Snapshot.index p)
        (n.add s identity p captures) children hchildren
      rw [Snapshot.index, Nat.max_self] at hbelow
      exact seek_of_first hread hfirst hbelow

/-- **The search for all of some elements follows the rule.** -/
theorem seekAll_sought (start stop bound : Nat) (n : Notes) :
    (es : List Element) → {xs : List Expectation} → ofElements es = .ok xs →
      SoughtAll s (max start bound) stop es n (seekAll s start stop bound n xs)
  | [], xs, hread => by
    rw [ofElements_nil_eq_ok hread, seekAll]
    exact .placed .nil
  | e :: es, xs, hread => by
    obtain ⟨y, ys, rfl, hy, hys⟩ := ofElements_cons_eq_ok hread
    have hfirst := seek_sought start stop bound n e hy
    rw [seekAll]
    generalize y.seek s start stop bound n = answer at hfirst ⊢
    cases hfirst with
    | gap h => exact .gap (h.cons es) (.refl n)
    | @placed f h =>
      obtain _ | ⟨first, below, -⟩ := h
      rename_i p captures fs
      -- the next element is looked for behind the node of this one, wherever the scope began
      have hrest := seekAll_sought start stop (p + 1)
        (n.addAll s (Finding.flattenList [⟨e.identity, p, captures, fs⟩])) es hys
      have hmax : max start (p + 1) = p + 1 := by
        have := first.le
        omega
      rw [hmax] at hrest
      simp only
      generalize seekAll s start stop (p + 1)
        (n.addAll s (Finding.flattenList [⟨e.identity, p, captures, fs⟩])) ys = answer at hrest ⊢
      cases hrest with
      | @placed gs h =>
        have hall := SoughtAll.placed (n := n) (Placed.cons first below h)
        simpa using hall
      | gap h before => exact .gap (.behind first below h) ((n.before_addAll s _).trans before)

end

/-! ### The search for a page -/

/-- **The search for the elements of a page assigns them their places.**  The notes are on
what was found and on all below it, and the answer is what is missing. -/
theorem exists_outcomes (es : List Element) :
    ∀ {xs : List Expectation}, ofElements es = .ok xs → ∀ (bound : Nat) (n : Notes),
      ∃ os : Outcomes, os.map Prod.fst = es ∧ Assigned s bound os ∧
        seekEach s bound n xs = (os.missing, n.addAll s (Finding.flattenList os.found)) := by
  induction es with
  | nil =>
    intro xs hread bound n
    rw [ofElements_nil_eq_ok hread, seekEach]
    exact ⟨[], rfl, .nil, by simp⟩
  | cons e es ih =>
    intro xs hread bound n
    obtain ⟨y, ys, rfl, hy, hys⟩ := ofElements_cons_eq_ok hread
    have hfirst := seek_sought (s := s) 0 s.size bound n e hy
    rw [Nat.zero_max] at hfirst
    rw [seekEach]
    generalize y.seek s 0 s.size bound n = answer at hfirst ⊢
    cases hfirst with
    | @placed f h =>
      obtain ⟨os, hpage, hassigned, hsearch⟩ :=
        ih hys (f.position + 1) (n.addAll s (Finding.flattenList [f]))
      refine ⟨(e, some f) :: os, by rw [List.map_cons, hpage], .cons_placed h hassigned, ?_⟩
      simp only [hsearch]
      simp
    | gap h =>
      obtain ⟨os, hpage, hassigned, hsearch⟩ := ih hys bound n
      refine ⟨(e, none) :: os, by rw [List.map_cons, hpage], .cons_gap h hassigned, ?_⟩
      simp only [hsearch]
      simp [(ofElement_eq_ok hy).1]

end Expectation

end

namespace Resolution

section

variable {engine : Template.Engine}

/-- **The search for a page on a screen assigns the elements of the page their places**, and its
notes are on all that was found and on nothing else. -/
theorem exists_search_eq {page : List Element} {xs : List Expectation}
    (hread : Expectation.ofElements page = .ok xs) (root : Node) :
    ∃ os : Outcomes, os.map Prod.fst = page ∧ Assigned (Snapshot.ofTree root) 0 os ∧
      search xs root =
        (os.missing, ({} : Notes).addAll (Snapshot.ofTree root) (Finding.flattenList os.found)) :=
  Expectation.exists_outcomes page hread 0 {}

/-- A sighting is of an element in or below the page, and its node is as this element asks. -/
theorem exists_shows_of_mem {page : List Element} {xs : List Expectation}
    (hread : Expectation.ofElements page = .ok xs) {root : Node} {x : Sighting}
    (hx : x ∈ (search xs root).2.sightings) :
    ∃ e ∈ Element.flattenList page, e.identity = x.identity ∧
      ∃ captures, (Snapshot.ofTree root).Shows x.position e captures := by
  obtain ⟨os, hpage, hassigned, hsearch⟩ := exists_search_eq hread root
  rw [hsearch] at hx
  have hmem := List.mem_map_of_mem (f := fun x => (x.identity, x.position, x.location.path)) hx
  rw [Notes.map_sightings_addAll, List.map_nil, List.nil_append] at hmem
  obtain ⟨f, hf, heq⟩ := List.mem_map.mp hmem
  simp only [Prod.mk.injEq] at heq
  obtain ⟨e, he, hsuits⟩ := hassigned.forall₂_flattenList.exists_of_mem_right f hf
  have hin := os.flattenList_accepted_subset he
  rw [hpage] at hin
  refine ⟨e, hin, ?_, f.captures, ?_⟩
  · rw [← hsuits.identity, heq.1]
  · rw [← heq.2.1]
    exact hsuits.shows

/-- The search for a page on a screen said without the search: what it answers and what it
notes tell of outcomes that the rule of placement leaves no choice about. -/
structure Greedy [Template.Engine] (page : List Element) (root : Node)
    (answer : List Element × Notes) (os : Outcomes) : Prop where
  /-- There is an outcome for each element at the top. -/
  page : os.map Prod.fst = page
  /-- It is the first place that is left, or there is no such place. -/
  assigned : Assigned (Snapshot.ofTree root) 0 os
  /-- Each node that was found, at any depth, is as its element asks. -/
  suits : List.Forall₂ (Finding.Suits (Snapshot.ofTree root)) (Element.flattenList os.accepted)
    (Finding.flattenList os.found)
  /-- The nodes of the elements at the top follow one another. -/
  ascending : (os.found.map Finding.position).Pairwise (· < ·)
  /-- So do those of the children of an element, in the subtree of its node. -/
  below : ∀ f ∈ Finding.flattenList os.found, (f.children.map Finding.position).Pairwise (· < ·) ∧
    ∀ g ∈ f.children, g.position ∈ (Snapshot.ofTree root).subtree f.position
  missing : answer.1 = os.missing
  /-- The notes give the node of each finding and the path of that node. -/
  noted : answer.2.sightings.map (fun x => (x.identity, x.position, x.location.path))
    = (Finding.flattenList os.found).map
        fun f => (f.identity, f.position, (Snapshot.ofTree root).path f.position)

/-- **The search for a page is greedy in document order.** -/
theorem search_greedy {page : List Element} {xs : List Expectation}
    (hread : Expectation.ofElements page = .ok xs) (root : Node) :
    ∃ os : Outcomes, Greedy page root (search xs root) os := by
  obtain ⟨os, hpage, hassigned, hsearch⟩ := exists_search_eq hread root
  have hsuits := hassigned.forall₂_flattenList
  refine ⟨os, hpage, hassigned, hsuits, hassigned.pairwise_lt, ?_, ?_, ?_⟩
  · intro f hf
    obtain ⟨e, -, hfor⟩ := hsuits.exists_of_mem_right f hf
    refine ⟨hfor.children.pairwise_lt, ?_⟩
    intro g hg
    have hscope := hfor.children.mem_scope g hg
    rw [Snapshot.subtree, List.mem_range'_1]
    omega
  · rw [hsearch]
  · rw [hsearch, Notes.map_sightings_addAll]
    rfl

end

/-- A page with a text, a cell that holds another text, and two buttons. -/
def samplePage : List Element :=
  [ ⟨.declared 1, .staticText, none, some "Total", none, []⟩,
    ⟨.declared 2, .cell, none, none, none,
      [⟨.declared 3, .staticText, none, some "Milk", none, []⟩]⟩,
    ⟨.declared 4, .button, some "ok", some "OK", none, []⟩,
    ⟨.declared 5, .button, none, some "Cancel", none, []⟩ ]

/-- A screen for it on which the first button comes twice, once before all that the page asks
for, and the other one is not there. -/
def sampleScreen : Node :=
  ⟨{ kind := .application }, none, none,
    [ ⟨{ kind := .button, identifier := "ok", label := "OK" }, none, none, []⟩,
      ⟨{ kind := .staticText, label := "Total" }, none, none, []⟩,
      ⟨{ kind := .cell }, none, none,
        [⟨{ kind := .staticText, label := "Milk" }, none, none, []⟩]⟩,
      ⟨{ kind := .button, identifier := "ok", label := "OK" }, none, none, []⟩ ]⟩

/-- The sample page with its templates read. -/
def sampleExpectations : List Expectation :=
  match Expectation.ofElements samplePage with
  | .ok xs => xs
  | .error _ => []

theorem ofElements_samplePage : Expectation.ofElements samplePage = .ok sampleExpectations := rfl

/-- On the sample screen the text, the cell with its text and the second of the twins get
their places, and the other button is missing. -/
theorem search_greedy_sample :
    ∃ os, Greedy samplePage sampleScreen (search sampleExpectations sampleScreen) os ∧
      (Finding.flattenList os.found).map Finding.position = [2, 3, 4, 5] ∧
      os.missing.map Element.identity = [.declared 5] := by
  obtain ⟨os, hgreedy⟩ := search_greedy ofElements_samplePage sampleScreen
  refine ⟨os, hgreedy, ?_, ?_⟩
  · have hpositions := congrArg (List.map fun x => x.2.1) hgreedy.noted
    rw [List.map_map, List.map_map] at hpositions
    refine Eq.trans hpositions.symm ?_
    decide +kernel
  · rw [← hgreedy.missing]
    decide +kernel

end Resolution

end ScreenPages
