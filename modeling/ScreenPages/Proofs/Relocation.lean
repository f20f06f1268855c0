import ScreenPages.Proofs.Numbering

/-!
# Locating again

A location is found again by counting the nodes of the screen that count as the same place,
in document order.  The search does not count nodes; it counts what it noted before, and it
compares whole paths.  So the node that a location leads back to is the one it was recorded
for exactly if the two numbers are the same.  They differ if a node in front has a place of
the same kind but was matched for no element, and if a node was matched for two elements.

## Main definitions

* `Snapshot.rank` — how many nodes before a position count as the same place.

## Main results

* `Snapshot.locate_eq_some_iff` — which node a location leads to.
* `Snapshot.step_eq_of_locate` — this node ends the path of the location.
* `Resolution.locate_eq_some_iff_rank` — when a location of a resolution leads back to the
  node it was recorded for.
-/

namespace List

/-- Where a member is found among the numbers below a bound that pass a test. -/
theorem getElem?_filter_range_eq_some_iff {P : Nat → Bool} {n k p : Nat} :
    ((range n).filter P)[k]? = some p ↔ p < n ∧ P p = true ∧ k = (range p).countP P := by
  induction n with
  | zero => simp
  | succ n ih =>
    have hlen : ((range n).filter P).length = (range n).countP P :=
      (countP_eq_length_filter (l := range n)).symm
    rw [range_succ, filter_append]
    by_cases hk : k < ((range n).filter P).length
    · rw [getElem?_append_left hk, ih]
      constructor
      · rintro ⟨hp, h⟩
        exact ⟨by omega, h⟩
      · rintro ⟨hp, hP, rfl⟩
        have hne : p ≠ n := by
          rintro rfl
          omega
        exact ⟨by omega, hP, rfl⟩
    · rw [getElem?_append_right (by omega)]
      constructor
      · intro h
        by_cases hPn : P n = true
        · rw [filter_cons_of_pos hPn, filter_nil, getElem?_singleton] at h
          split at h
          · cases h
            exact ⟨by omega, hPn, by omega⟩
          · cases h
        · rw [filter_cons_of_neg hPn] at h
          simp at h
      · rintro ⟨hp, hP, rfl⟩
        rcases Nat.lt_or_eq_of_le (Nat.le_of_lt_succ hp) with hlt | rfl
        · -- the numbers up to `p` that pass are fewer than those up to `n`
          have hlast := ih.mpr ⟨hlt, hP, rfl⟩
          exact absurd (getElem?_eq_some_iff.mp hlast).1 hk
        · rw [filter_cons_of_pos hP, hlen, Nat.sub_self]
          rfl

end List

namespace ScreenPages

namespace Snapshot

variable {s : Snapshot} {p q : Nat} {path : List Step} {l : Location}

/-! ### The end of a path -/

/-- A path ends with the step of its node. -/
theorem getLast?_path (s : Snapshot) (p : Nat) :
    (s.path p).getLast? = (s.entry? p).map Entry.step := by
  rw [path, List.getLast?_reverse]
  cases hentry : s.entry? p with
  | none =>
    cases s.size with
    | zero => rfl
    | succ n => rw [trail, hentry]; rfl
  | some entry =>
    have hlt : p < s.size := (Array.getElem?_eq_some_iff.mp hentry).1
    obtain ⟨n, hn⟩ : ∃ n, s.size = n + 1 := ⟨s.size - 1, by omega⟩
    rw [hn, trail, hentry]
    cases hparent : entry.parent with
    | none => simp [hparent]
    | some q => simp [hparent]

/-- What paths have to share includes their ends. -/
theorem getLast?_relocationKey (path : List Step) :
    (relocationKey path).getLast? = path.getLast? := by
  rw [relocationKey]
  cases path.getLast? with
  | none => rfl
  | some target => simp

/-- Nodes that count as the same place have the same step. -/
theorem step_eq_of_relocationKey_eq {entry : Entry} (hentry : s.entry? p = some entry)
    (h : relocationKey (s.path p) = relocationKey path) : path.getLast? = some entry.step := by
  rw [← getLast?_relocationKey, ← h, getLast?_relocationKey, getLast?_path, hentry]
  rfl

/-! ### Which node a location leads to -/

/-- How many nodes before a position count as the same place as a path. -/
def rank (s : Snapshot) (path : List Step) (position : Nat) : Nat :=
  (List.range position).countP fun q => relocationKey (s.path q) == relocationKey path

/-- **A location leads to the node that counts as the same place and has as many in front
that do so as the location says.** -/
theorem locate_eq_some_iff :
    s.locate l = some p ↔ p < s.size ∧ relocationKey (s.path p) = relocationKey l.path ∧
      l.index = s.rank l.path p := by
  rw [locate, matching, List.getElem?_filter_range_eq_some_iff, beq_iff_eq]
  rfl

/-- No node in front of the first that counts as the same place does so. -/
theorem rank_eq_zero_iff :
    s.rank path p = 0 ↔ ∀ q < p, relocationKey (s.path q) ≠ relocationKey path := by
  simp [rank, List.countP_eq_zero]

/-- If some node counts as the same place, the first location leads to a node. -/
theorem exists_locate_first (hlt : q < s.size)
    (hkey : relocationKey (s.path q) = relocationKey path) : ∃ p, s.locate ⟨path, 0⟩ = some p := by
  have hmem : q ∈ s.matching path := by
    rw [matching]
    simp [hlt, hkey]
  rw [locate]
  cases hmatching : s.matching path with
  | nil => rw [hmatching] at hmem; cases hmem
  | cons p ps => exact ⟨p, rfl⟩

/-- **The node that a location leads to has the step that ends the path of the location.** -/
theorem step_eq_of_locate (h : s.locate l = some p) :
    ∃ entry, s.entry? p = some entry ∧ l.path.getLast? = some entry.step := by
  obtain ⟨hlt, hkey, -⟩ := locate_eq_some_iff.mp h
  have hentry : s.entry? p = some s.entries[p] := Array.getElem?_eq_getElem hlt
  exact ⟨_, hentry, step_eq_of_relocationKey_eq hentry hkey⟩

end Snapshot

/-! ### Locations of a resolution -/

namespace Resolution

section

variable {engine : Template.Engine}

/-- **A location leads back to the node that it was recorded for exactly if as many sightings
before it have its path as nodes in front of the node count as the same place.** -/
theorem locate_eq_some_iff_rank {page : List Element} {xs : List Expectation}
    (hread : Expectation.ofElements page = .ok xs) (root : Node) {before after : List Sighting}
    {x : Sighting} (hsplit : (search xs root).2.sightings = before ++ x :: after) :
    (Snapshot.ofTree root).locate x.location = some x.position
      ↔ Notes.occurrences before x.location.path
        = (Snapshot.ofTree root).rank x.location.path x.position := by
  have hx : x ∈ (search xs root).2.sightings := by
    rw [hsplit]
    exact List.mem_append_right _ List.mem_cons_self
  obtain ⟨e, -, -, captures, hshows⟩ := exists_shows_of_mem hread hx
  have hlocation := numbered_search hread root before x after hsplit
  rw [Snapshot.locate_eq_some_iff, hlocation]
  constructor
  · rintro ⟨-, -, hrank⟩
    exact hrank
  · intro hrank
    exact ⟨hshows.lt_size, rfl, hrank⟩

end

/-- The text of the sample page is noted first, and no node in front of it has its place. -/
theorem locate_eq_some_iff_rank_sample : ∃ x after,
    (search sampleExpectations sampleScreen).2.sightings = [] ++ x :: after ∧
      (Snapshot.ofTree sampleScreen).locate x.location = some x.position := by
  have hsplit : (search sampleExpectations sampleScreen).2.sightings = [] ++ _ :: _ := rfl
  refine ⟨_, _, hsplit, ?_⟩
  rw [locate_eq_some_iff_rank ofElements_samplePage sampleScreen hsplit]
  decide +kernel

/-- **Not every location leads back to the node that it was recorded for.**  The location of
the button of the sample page leads to its twin, which no element was found for. -/
theorem not_forall_locate_eq_some : ¬ ∀ page xs, Expectation.ofElements page = .ok xs → ∀ root,
    ∀ x ∈ (search xs root).2.sightings,
      (Snapshot.ofTree root).locate x.location = some x.position := by
  intro hall
  have hsample := hall samplePage sampleExpectations ofElements_samplePage sampleScreen
  revert hsample
  decide +kernel

end Resolution

end ScreenPages
