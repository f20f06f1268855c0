import Mathlib.Data.List.Sort
import ScreenPages.Proofs.Insertion
import ScreenPages.Proofs.Relocation

/-!
# Wrapper views

Generic containers come and go between two screens of the same application.  When one is put
around a run of siblings below the root, the paths of these and of all below them get longer,
and every position behind it moves up.  What counts as the same place stays the same, because
generic containers on the way are left out, and a new container counts as the same place as
no node that is not one itself.

## Main definitions

* `Node.Wrapped` — a generic container is put around a run of siblings.
* `Node.Wrappings` — any number of them, and where the positions go.
* `Snapshot.Wraps` — one snapshot holds another one and generic containers besides.

## Main results

* `Node.WidenedBelow.relocationKey_eq` — generic containers on the way do not count.
* `Snapshot.Wraps.matching_eq` — the same nodes count as the same place before and after.
* `Snapshot.locate_wrapped` — locations lead to the same nodes before and after.
-/

namespace ScreenPages

namespace Node

/-- A generic container is put around a run of siblings below the root, perhaps around none;
`f` tells where the positions go. -/
def Wrapped (n m : Node) (f : Nat → Nat) : Prop :=
  ∃ w p ms, w.step.kind = .other ∧ Replaced w.children w p n.children ms ∧
    m = { n with children := ms } ∧ f = shift (p + 1) 1

/-- Generic containers are put around runs of siblings below the root, one after the other. -/
inductive Wrappings : Node → Node → (Nat → Nat) → Prop
  | refl (n : Node) : Wrappings n n id
  | tail {n m l : Node} {f g : Nat → Nat} (h : Wrappings n m f) (last : Wrapped m l g) :
      Wrappings n l (g ∘ f)

/-! ### Generic containers on the way -/

/-- The steps below the root that count: the last one, and those above it that are no generic
containers. -/
def counted (rest : List Step) : List Step :=
  rest.dropLast.filter (fun s => s.kind != .other) ++ rest.getLast?.toList

variable {s : Step} {extra rest rest' path path' : List Step}

theorem relocationKey_cons (h : rest ≠ []) :
    Snapshot.relocationKey (s :: rest) = counted rest := by
  obtain ⟨target, htarget⟩ : ∃ target, rest.getLast? = some target :=
    ⟨_, List.getLast?_eq_some_getLast h⟩
  rw [Snapshot.relocationKey, counted, List.getLast?_cons_of_ne_nil h,
    List.dropLast_cons_of_ne_nil h, htarget]
  rfl

theorem counted_cons (h : rest ≠ []) :
    counted (s :: rest) = [s].filter (fun s => s.kind != .other) ++ counted rest := by
  rw [counted, counted, List.dropLast_cons_of_ne_nil h, List.getLast?_cons_of_ne_nil h,
    ← List.append_assoc, ← List.filter_append]
  rfl

theorem Widened.eq_nil_iff (h : Widened extra rest rest') : rest' = [] ↔ rest = [] := by
  induction h with
  | same => rfl
  | here h => simp [h]
  | cons => simp

/-- Generic containers that are added above the end do not count. -/
theorem Widened.counted_eq (h : Widened extra rest rest') (hextra : ∀ s ∈ extra, s.kind = .other) :
    counted rest' = counted rest := by
  induction h with
  | same => rfl
  | @here rest hne =>
    have hnone : extra.filter (fun s => s.kind != .other) = [] := by
      rw [List.filter_eq_nil_iff]
      intro s hs
      simp [hextra s hs]
    rw [counted, counted, List.dropLast_append_of_ne_nil hne, List.filter_append, hnone,
      List.nil_append, List.getLast?_append_of_ne_nil _ hne]
  | @cons s rest rest' h ih =>
    by_cases hrest : rest = []
    · rw [hrest, h.eq_nil_iff.mpr hrest]
    · have hrest' : rest' ≠ [] := fun hnil => hrest (h.eq_nil_iff.mp hnil)
      rw [counted_cons hrest, counted_cons hrest', ih]

/-- **Generic containers that are added on the way from the root to a node do not change what
counts as the same place.** -/
theorem WidenedBelow.relocationKey_eq (h : WidenedBelow extra path path')
    (hextra : ∀ s ∈ extra, s.kind = .other) :
    Snapshot.relocationKey path' = Snapshot.relocationKey path := by
  obtain ⟨s, rest, rest', rfl, rfl, h⟩ := h
  by_cases hrest : rest = []
  · rw [hrest, h.eq_nil_iff.mpr hrest]
  · have hrest' : rest' ≠ [] := fun hnil => hrest (h.eq_nil_iff.mp hnil)
    rw [relocationKey_cons hrest, relocationKey_cons hrest', h.counted_eq hextra]

end Node

namespace Snapshot

open Node

/-! ### The snapshots before and after -/

/-- A snapshot holds another one and generic containers besides, and what counts as the same
place does not change. -/
structure Wraps (s t : Snapshot) (f : Nat → Nat) : Prop extends Embeds s t f where
  key : ∀ q < s.size, relocationKey (t.path (f q)) = relocationKey (s.path q)
  /-- What is new is a generic container. -/
  other : ∀ r e, t.entry? r = some e → (∀ q, f q ≠ r) → e.step.kind = .other

variable {s t u : Snapshot} {f g : Nat → Nat} {n m : Node}

theorem Wraps.refl (s : Snapshot) : Wraps s s id where
  toEmbeds := .refl s
  key _ _ := rfl
  other r _ _ hnew := absurd rfl (hnew r)

theorem Wraps.trans (h : Wraps s t f) (h' : Wraps t u g) : Wraps s u (g ∘ f) where
  toEmbeds := h.toEmbeds.trans h'.toEmbeds
  key q hq := (h'.key (f q) ((h.lt_size q).mpr hq)).trans (h.key q hq)
  other r e he hnew := by
    -- a node that is new after both is new after the second, or it was after the first
    by_cases hold : ∃ q, g q = r
    · obtain ⟨q, rfl⟩ := hold
      have hq : q < t.size := (h'.lt_size q).mp (Array.getElem?_eq_some_iff.mp he).1
      obtain ⟨e₁, e₂, h₁, h₂, hstep, -, -⟩ := h'.entry q hq
      rw [he] at h₂
      cases h₂
      rw [hstep]
      exact h.other q e₁ h₁ fun p hp => hnew p (congrArg g hp)
    · exact h'.other r e he fun q hq => hold ⟨q, hq⟩

/-- A generic container that is put around a run of siblings is all that is new. -/
theorem wraps_of_wrapped (h : Wrapped n m f) : Wraps (ofTree n) (ofTree m) f := by
  obtain ⟨w, p, ms, hkind, hreplaced, rfl, rfl⟩ := h
  have haround := around_children w
  refine ⟨embeds_of_replaced hreplaced haround, ?_, ?_⟩
  · intro q hq
    refine (path_of_replaced hreplaced haround hq).relocationKey_eq ?_
    intro s hs
    rw [List.mem_singleton.mp hs, hkind]
  · intro r e he hnew
    rcases exists_shift_eq_or (p + 1) 1 r with ⟨q, hq⟩ | ⟨hlow, hhigh⟩
    · exact absurd hq (hnew q)
    · obtain rfl : r = p + 1 := by omega
      obtain ⟨path, hw⟩ := hreplaced.stands
      have hroot : Stands [{ n with children := ms }] (p + 1) (n.step :: path) w := .inner hw
      obtain ⟨e', he', hstep, -, -⟩ := hroot.entry?_eq
      rw [he] at he'
      cases he'
      rw [hstep, hkind]

theorem wraps_of_wrappings (h : Wrappings n m f) : Wraps (ofTree n) (ofTree m) f := by
  induction h with
  | refl => exact .refl _
  | tail _ last ih => exact ih.trans (wraps_of_wrapped last)

/-! ### Locations -/

theorem mem_matching_iff {path : List Step} {p : Nat} :
    p ∈ s.matching path ↔ p < s.size ∧ relocationKey (s.path p) = relocationKey path := by
  rw [matching, List.mem_filter, List.mem_range, beq_iff_eq]

theorem pairwise_matching (s : Snapshot) (path : List Step) :
    (s.matching path).Pairwise (· < ·) :=
  List.pairwise_lt_range.filter _

/-- **The nodes that count as the same place as a path are the same before and after**, if
the path does not end at a generic container. -/
theorem Wraps.matching_eq (h : Wraps s t f) {path : List Step}
    (hpath : ∀ target, path.getLast? = some target → target.kind ≠ .other) :
    t.matching path = (s.matching path).map f := by
  apply (t.pairwise_matching path).eq_of_mem_iff
  · exact (s.pairwise_matching path).map f fun _ _ hlt => h.strictMono hlt
  · intro r
    rw [List.mem_map, mem_matching_iff]
    constructor
    · rintro ⟨hr, hkey⟩
      by_cases hold : ∃ q, f q = r
      · obtain ⟨q, rfl⟩ := hold
        have hq := (h.lt_size q).mp hr
        exact ⟨q, mem_matching_iff.mpr ⟨hq, (h.key q hq).symm.trans hkey⟩, rfl⟩
      · -- a new node is a generic container, and the path ends at none
        have hentry : t.entry? r = some t.entries[r] := Array.getElem?_eq_getElem hr
        have hother := h.other r _ hentry fun q hq => hold ⟨q, hq⟩
        exact absurd hother (hpath _ (step_eq_of_relocationKey_eq hentry hkey))
    · rintro ⟨q, hq, rfl⟩
      obtain ⟨hq, hkey⟩ := mem_matching_iff.mp hq
      exact ⟨(h.lt_size q).mpr hq, (h.key q hq).trans hkey⟩

/-- A location whose path does not end at a generic container leads to the same node before
and after. -/
theorem Wraps.locate_eq (h : Wraps s t f) {l : Location}
    (hpath : ∀ target, l.path.getLast? = some target → target.kind ≠ .other) :
    t.locate l = (s.locate l).map f := by
  rw [locate, locate, h.matching_eq hpath, List.getElem?_map]

/-- **Wrapper views do not break relocation.**  When generic containers are put around runs of
siblings below the root, all nodes are still there in the same order.  Whatever the index, the
path that a node had before, if it is no generic container itself, leads to the same node before
and after, and so does the path that it has after. -/
theorem locate_wrapped (h : Wrappings n m f) {p : Nat} {e : Entry}
    (hentry : entry? (ofTree n) p = some e) (hkind : e.step.kind ≠ .other) :
    Embeds (ofTree n) (ofTree m) f ∧ ∀ k,
      (ofTree m).locate ⟨(ofTree n).path p, k⟩ = ((ofTree n).locate ⟨(ofTree n).path p, k⟩).map f ∧
      (ofTree m).locate ⟨(ofTree m).path (f p), k⟩
        = ((ofTree n).locate ⟨(ofTree m).path (f p), k⟩).map f := by
  have hwraps := wraps_of_wrappings h
  have hp : p < (ofTree n).size := (Array.getElem?_eq_some_iff.mp hentry).1
  obtain ⟨e', e'', he', he'', hstep, -, -⟩ := hwraps.entry p hp
  rw [hentry] at he'
  cases he'
  refine ⟨hwraps.toEmbeds, fun k => ⟨hwraps.locate_eq ?_, hwraps.locate_eq ?_⟩⟩
  · intro target htarget
    rw [getLast?_path, hentry] at htarget
    cases htarget
    exact hkind
  · intro target htarget
    rw [getLast?_path, he''] at htarget
    cases htarget
    rw [hstep]
    exact hkind

open Resolution (sampleScreen)

/-- A view around the first text of the sample screen and the cell. -/
def sampleView : Node :=
  ⟨{ kind := .other }, none, none,
    [ ⟨{ kind := .staticText, label := "Total" }, none, none, []⟩,
      ⟨{ kind := .cell }, none, none,
        [⟨{ kind := .staticText, label := "Milk" }, none, none, []⟩]⟩ ]⟩

/-- The sample screen with the view. -/
def viewedScreen : Node :=
  ⟨{ kind := .application }, none, none,
    [ ⟨{ kind := .button, identifier := "ok", label := "OK" }, none, none, []⟩,
      sampleView,
      ⟨{ kind := .button, identifier := "ok", label := "OK" }, none, none, []⟩ ]⟩

/-- An empty view. -/
def sampleSpacer : Node := ⟨{ kind := .other, label := "spacer" }, none, none, []⟩

/-- The sample screen with the view and with an empty one in the cell. -/
def wrappedScreen : Node :=
  ⟨{ kind := .application }, none, none,
    [ ⟨{ kind := .button, identifier := "ok", label := "OK" }, none, none, []⟩,
      ⟨{ kind := .other }, none, none,
        [ ⟨{ kind := .staticText, label := "Total" }, none, none, []⟩,
          ⟨{ kind := .cell }, none, none,
            [sampleSpacer, ⟨{ kind := .staticText, label := "Milk" }, none, none, []⟩]⟩ ]⟩,
      ⟨{ kind := .button, identifier := "ok", label := "OK" }, none, none, []⟩ ]⟩

/-- The text in the cell moves up by two and is located by either path. -/
theorem locate_wrapped_sample : ∃ f, Wrappings sampleScreen wrappedScreen f ∧ f 4 = 6 ∧ ∀ k,
    (ofTree wrappedScreen).locate ⟨(ofTree sampleScreen).path 4, k⟩
        = ((ofTree sampleScreen).locate ⟨(ofTree sampleScreen).path 4, k⟩).map f ∧
      (ofTree wrappedScreen).locate ⟨(ofTree wrappedScreen).path (f 4), k⟩
        = ((ofTree sampleScreen).locate ⟨(ofTree wrappedScreen).path (f 4), k⟩).map f := by
  -- the view goes around two children of the root, the empty one around none of the cell
  have hview : Wrapped sampleScreen viewedScreen (shift 2 1) :=
    ⟨sampleView, _, _, rfl, .behind (.here _), rfl, rfl⟩
  have hspacer : Wrapped viewedScreen wrappedScreen (shift 5 1) :=
    ⟨sampleSpacer, _, _, rfl, .behind (.inner (.behind (.inner (.here _)))), rfl, rfl⟩
  have hwrappings := (Wrappings.refl sampleScreen).tail hview |>.tail hspacer
  have hmilk : ∃ e, entry? (ofTree sampleScreen) 4 = some e ∧ e.step.kind ≠ .other :=
    ⟨_, rfl, by decide⟩
  obtain ⟨e, hentry, hkind⟩ := hmilk
  exact ⟨_, hwrappings, rfl, (locate_wrapped hwrappings hentry hkind).2⟩

end Snapshot

end ScreenPages
