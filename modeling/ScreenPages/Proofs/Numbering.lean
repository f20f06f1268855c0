import Mathlib.Data.List.Induction
import ScreenPages.Proofs.Search

/-!
# The numbering of locations

The search numbers a location by the earlier sightings with the same path.  Candidates that
are still tried count as well, so that the number of a node below a candidate is right only
if the candidate is kept; a candidate that is taken back takes all of these numbers with it.
In the notes of a whole search no number is missing and none is given twice.

## Main definitions

* `Numbered` — each sighting is numbered by those before it.
* `Resolution.Exact` — a resolution that tells of what was accepted, and of nothing else.

## Main results

* `Numbered.concat` — one more note keeps the numbering.
* `Numbered.indices_eq_range` — the sightings with a path are numbered from zero on.
* `Numbered.nodup_location` — no location is recorded twice.
* `Resolution.ofPage_exact` — the resolution of a page is exact.
-/

namespace ScreenPages

/-- Each of some sightings has the path of its node, and the number of the sightings before
it that have the same path. -/
def Numbered (s : Snapshot) (xs : List Sighting) : Prop :=
  ∀ before x after, xs = before ++ x :: after →
    x.location = ⟨s.path x.position, Notes.occurrences before (s.path x.position)⟩

namespace Numbered

variable {s : Snapshot} {xs ys : List Sighting} {x : Sighting}

theorem nil : Numbered s [] := by
  intro before x after h
  simp at h

/-- The sightings in front of others are numbered by themselves. -/
theorem of_append (h : Numbered s (xs ++ ys)) : Numbered s xs := by
  intro before x after hxs
  refine h before x (after ++ ys) ?_
  rw [hxs, List.append_assoc, List.cons_append]

/-- The last sighting is numbered by all in front of it. -/
theorem index_eq (h : Numbered s (xs ++ [x])) :
    x.location.index = Notes.occurrences xs x.location.path := by
  rw [h xs x [] rfl]

/-- **One more sighting keeps the numbering.** -/
theorem concat (h : Numbered s xs)
    (hx : x.location = ⟨s.path x.position, Notes.occurrences xs (s.path x.position)⟩) :
    Numbered s (xs ++ [x]) := by
  intro before y after hsplit
  -- either `y` is the new sighting, or it is one of the old ones
  rcases List.eq_nil_or_concat after with rfl | ⟨after, z, rfl⟩
  · obtain ⟨rfl, hxy⟩ := List.append_inj' hsplit rfl
    cases hxy
    exact hx
  · rw [List.concat_eq_append, ← List.cons_append, ← List.append_assoc] at hsplit
    exact h before y after (List.append_inj' hsplit rfl).1

/-- **Noting findings keeps the numbering.** -/
theorem addAll {n : Notes} (h : Numbered s n.sightings) (fs : List Finding) :
    Numbered s (n.addAll s fs).sightings := by
  induction fs generalizing n with
  | nil => exact h
  | cons f fs ih =>
    rw [Notes.addAll_cons]
    exact ih (h.concat rfl)

/-- **The sightings with a path are numbered from zero on, in the order of the notes.** -/
theorem indices_eq_range (h : Numbered s xs) (path : List Step) :
    (xs.filter fun x => x.location.path == path).map (fun x => x.location.index)
      = List.range (Notes.occurrences xs path) := by
  induction xs using List.reverseRecOn with
  | nil => rfl
  | append_singleton xs x ih =>
    have hindex := h.index_eq
    rw [List.filter_append, List.map_append, ih h.of_append]
    by_cases hpath : x.location.path = path
    · rw [hpath] at hindex
      simp [hpath, hindex, Notes.occurrences, List.range_succ]
    · simp [hpath, Notes.occurrences]

/-- A sighting is numbered below the number of those with its path. -/
theorem index_lt (h : Numbered s xs) (hx : x ∈ xs) :
    x.location.index < Notes.occurrences xs x.location.path := by
  rw [← List.mem_range, ← h.indices_eq_range, List.mem_map]
  exact ⟨x, List.mem_filter.mpr ⟨hx, beq_self_eq_true _⟩, rfl⟩

/-- **No location is recorded twice.** -/
theorem nodup_location (h : Numbered s xs) : (xs.map Sighting.location).Nodup := by
  induction xs using List.reverseRecOn with
  | nil => exact List.nodup_nil
  | append_singleton xs x ih =>
    rw [List.map_append, List.map_singleton, List.nodup_append]
    refine ⟨ih h.of_append, List.pairwise_singleton _ _, ?_⟩
    intro l hl l' hl' heq
    obtain ⟨y, hy, rfl⟩ := List.mem_map.mp hl
    rw [List.mem_singleton] at hl'
    rw [hl'] at heq
    have hlt := h.of_append.index_lt hy
    rw [heq, h.index_eq] at hlt
    exact Nat.lt_irrefl _ hlt

end Numbered

namespace Resolution

section

variable {engine : Template.Engine}

/-- What a resolution tells of a search. -/
theorem ofPage_some (xs : List Expectation) (root : Node) :
    ofPage xs (some root) = ⟨(search xs root).2.sightings.map fun x => (x.identity, x.location),
      (search xs root).2.captures, (search xs root).1⟩ := rfl

/-- **The sightings of a search are numbered.** -/
theorem numbered_search {page : List Element} {xs : List Expectation}
    (hread : Expectation.ofElements page = .ok xs) (root : Node) :
    Numbered (Snapshot.ofTree root) (search xs root).2.sightings := by
  obtain ⟨os, -, -, hsearch⟩ := exists_search_eq hread root
  rw [hsearch]
  exact Numbered.nil.addAll _

/-- A resolution tells of the elements that were accepted and of all below them, in document
order, and of nothing else. -/
structure Exact [Template.Engine] (page : List Element) (root : Node) (r : Resolution)
    (os : Outcomes) :
    Prop where
  /-- There is an outcome for each element at the top. -/
  page : os.map Prod.fst = page
  /-- It is the one that the rule of placement gives. -/
  assigned : Assigned (Snapshot.ofTree root) 0 os
  missing : r.missing = os.missing
  /-- The identities are those of the accepted elements and of all below them. -/
  resolved : r.resolved.map Prod.fst = (Element.flattenList os.accepted).map Element.identity
  /-- Each of these has a finding that is for it. -/
  suits : List.Forall₂ (Finding.Suits (Snapshot.ofTree root)) (Element.flattenList os.accepted)
    (Finding.flattenList os.found)
  /-- The values are those that the findings capture, one finding after the other. -/
  captures : r.captures = (Finding.flattenList os.found).flatMap Finding.captures
  /-- The locations with one path are numbered from zero on. -/
  numbered : ∀ path, (r.resolved.filter fun f => f.2.path == path).map (fun f => f.2.index)
    = List.range (r.resolved.countP fun f => f.2.path == path)
  /-- No two of them are the same. -/
  distinct : (r.resolved.map Prod.snd).Nodup

/-- **The resolution of a page is exact**: nothing is left of a rejected candidate, nothing of
an accepted one is lost, and no location is given twice. -/
theorem ofPage_exact {page : List Element} {xs : List Expectation}
    (hread : Expectation.ofElements page = .ok xs) (root : Node) :
    ∃ os : Outcomes, Exact page root (ofPage xs (some root)) os := by
  obtain ⟨os, hpage, hassigned, hsearch⟩ := exists_search_eq hread root
  have hsuits := hassigned.forall₂_flattenList
  have hnumbered := numbered_search hread root
  have hidentity : (search xs root).2.sightings.map Sighting.identity
      = (Finding.flattenList os.found).map Finding.identity := by
    have hplaces := congrArg (List.map Prod.fst)
      (Notes.map_sightings_addAll {} (Snapshot.ofTree root) (Finding.flattenList os.found))
    rw [hsearch]
    simpa [Function.comp_def] using hplaces
  refine ⟨os, hpage, hassigned, ?_, ?_, hsuits, ?_, ?_, ?_⟩
  · rw [ofPage_some, hsearch]
  · rw [ofPage_some, Finding.map_identity_eq hsuits, ← hidentity]
    exact List.map_map
  · rw [ofPage_some, hsearch]
    exact Notes.captures_addAll {} _ _
  · intro path
    have hindices := hnumbered.indices_eq_range path
    simpa [ofPage_some, List.filter_map, List.countP_map, Function.comp_def, Notes.occurrences]
      using hindices
  · simpa [ofPage_some, Function.comp_def] using hnumbered.nodup_location

end

/-- The resolution of the sample page tells of four elements. -/
theorem ofPage_exact_sample :
    ∃ os, Exact samplePage sampleScreen (ofPage sampleExpectations (some sampleScreen)) os ∧
      (Element.flattenList os.accepted).map Element.identity
        = [.declared 1, .declared 2, .declared 3, .declared 4] := by
  obtain ⟨os, hexact⟩ := ofPage_exact ofElements_samplePage sampleScreen
  refine ⟨os, hexact, ?_⟩
  rw [← hexact.resolved]
  decide +kernel

end Resolution

end ScreenPages
