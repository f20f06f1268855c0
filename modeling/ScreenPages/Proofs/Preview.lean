import ScreenPages.Proofs.Search

/-!
# The preview decides nothing

Before the search looks for the children of a candidate in order, it asks whether each of them
occurs below the candidate at all.  This preview is only a shortcut.  Children that have places
below a candidate occur there, so it refuses no candidate that would have been accepted; and a
candidate that it refuses is taken back just as if its children had been looked for in vain,
whatever had been noted of them by then.

The **plain** search leaves the preview out.

## Main definitions

* `Expectation.seekPlain`, `Expectation.seekAllPlain`, `Expectation.seekEachPlain` — the search
  without the preview.
* `Resolution.ofPagePlain` — the outcome of the plain search for a whole page.

## Main results

* `Expectation.seek_refused` — a candidate that the preview refuses is taken back.
* `Expectation.seekPlain_eq`, `Expectation.seekAllPlain_eq` — both searches answer the same and
  leave the same notes.
* `Resolution.ofPagePlain_eq` — both find the same of a page.
-/

namespace ScreenPages

variable {s : Snapshot}

section

variable {engine : Template.Engine}

namespace Expectation

/-! ### The plain search -/

mutual

/-- Looks for an element as `seek` does, but for its children at once. -/
def seekPlain (s : Snapshot) (start stop bound : Nat) (notes : Notes) :
    Expectation → Option Nat × Notes
  | ⟨element, own, _, children⟩ =>
    let first := max start bound
    match own.first s (List.range' first (stop - first)) with
    | none => (none, notes)
    | some (p, captures) =>
      let tried := notes.add s element.identity p captures
      if children.isEmpty then (some (Snapshot.index p), tried)
      else
        let (verified, tried) := seekAllPlain s (p + 1) (s.stop p) (Snapshot.index p) tried children
        if verified then (some (Snapshot.index p), tried)
        else (none, tried.cut notes.sightings.length notes.captures.length)

/-- Looks for all of some elements in order, and gives up at the first that is missing. -/
def seekAllPlain (s : Snapshot) (start stop bound : Nat) (notes : Notes) :
    List Expectation → Bool × Notes
  | [] => (true, notes)
  | x :: xs =>
    match seekPlain s start stop bound notes x with
    | (none, notes) => (false, notes)
    | (some index, notes) => seekAllPlain s start stop index notes xs

end

/-- Looks for each of some elements in order, and answers with those that are missing. -/
def seekEachPlain (s : Snapshot) (bound : Nat) (notes : Notes) :
    List Expectation → List Element × Notes
  | [] => ([], notes)
  | x :: xs =>
    match x.seekPlain s 0 s.size bound notes with
    | (some index, notes) => seekEachPlain s index notes xs
    | (none, notes) =>
      let (missing, notes) := seekEachPlain s bound notes xs
      (x.element :: missing, notes)

/-! ### Both searches do the same -/

/-- **A candidate that the preview refuses is taken back** if its children are looked for, and
nothing is left of what was noted of them. -/
theorem seek_refused {e : Element} {x : Expectation} (hread : ofElement e = .ok x) (p : Nat)
    (captures : List Capture) (n : Notes)
    (hrefused : (x.preview.all fun m => m.occursBelow s p) = false) :
    ∃ later, seekAll s (p + 1) (s.stop p) (Snapshot.index p) (n.add s e.identity p captures)
        x.children = (false, later) ∧
      later.cut n.sightings.length n.captures.length = n := by
  obtain ⟨-, -, hpreview, hchildren⟩ := ofElement_eq_ok hread
  have hsought := seekAll_sought (s := s) (p + 1) (s.stop p) (Snapshot.index p)
    (n.add s e.identity p captures) e.children hchildren
  rw [Snapshot.index, Nat.max_self] at hsought
  rw [Snapshot.index]
  generalize seekAll s (p + 1) (s.stop p) (p + 1) (n.add s e.identity p captures) x.children
    = answer at hsought ⊢
  cases hsought with
  | placed h =>
    -- children that have places below the node occur there
    rw [h.preview hpreview] at hrefused
    cases hrefused
  | gap _ hbefore => exact ⟨_, rfl, ((n.before_add s _ _ _).trans hbefore).cut_eq⟩

mutual

/-- **The plain search for an element answers the same and leaves the same notes.** -/
theorem seekPlain_eq (start stop bound : Nat) (n : Notes) :
    (e : Element) → {x : Expectation} → ofElement e = .ok x →
      x.seekPlain s start stop bound n = x.seek s start stop bound n
  | ⟨identity, kind, identifier, label, value, elements⟩, x, hread => by
    obtain ⟨helement, -, -, hchildren⟩ := ofElement_eq_ok hread
    have hbelow := fun p captures => seekAllPlain_eq (p + 1) (s.stop p) (Snapshot.index p)
      (n.add s identity p captures) elements hchildren
    have hrefused := fun p captures => seek_refused (s := s) hread p captures n
    obtain ⟨element, own, preview, children⟩ := x
    simp only at helement hbelow hrefused
    subst helement
    rw [seekPlain, seek]
    cases own.first s (List.range' (max start bound) (stop - max start bound)) with
    | none => rfl
    | some candidate =>
      obtain ⟨p, captures⟩ := candidate
      simp only [hbelow]
      cases hall : preview.all fun m => m.occursBelow s p with
      | true => rfl
      | false =>
        obtain ⟨later, hgap, hcut⟩ := hrefused p captures hall
        simp only [hgap, hcut, (n.before_add s identity p captures).cut_eq, Bool.false_eq_true,
          if_false]

/-- **So does the plain search for all of some elements.** -/
theorem seekAllPlain_eq (start stop bound : Nat) (n : Notes) :
    (es : List Element) → {xs : List Expectation} → ofElements es = .ok xs →
      seekAllPlain s start stop bound n xs = seekAll s start stop bound n xs
  | [], xs, hread => by rw [ofElements_nil_eq_ok hread, seekAllPlain, seekAll]
  | e :: es, xs, hread => by
    obtain ⟨y, ys, rfl, hy, hys⟩ := ofElements_cons_eq_ok hread
    rw [seekAllPlain, seekAll, seekPlain_eq start stop bound n e hy]
    generalize y.seek s start stop bound n = answer
    obtain ⟨outcome, m⟩ := answer
    cases outcome with
    | none => rfl
    | some index => exact seekAllPlain_eq start stop index m es hys

end

/-- The plain search for each of some elements answers the same and leaves the same notes. -/
theorem seekEachPlain_eq (es : List Element) {xs : List Expectation} (hread : ofElements es = .ok xs)
    (bound : Nat) (n : Notes) : seekEachPlain s bound n xs = seekEach s bound n xs := by
  induction es generalizing xs bound n with
  | nil => rw [ofElements_nil_eq_ok hread, seekEachPlain, seekEach]
  | cons e es ih =>
    obtain ⟨y, ys, rfl, hy, hys⟩ := ofElements_cons_eq_ok hread
    rw [seekEachPlain, seekEach, seekPlain_eq 0 s.size bound n e hy]
    generalize y.seek s 0 s.size bound n = answer
    obtain ⟨outcome, m⟩ := answer
    cases outcome with
    | none => simp only [ih hys]
    | some index => exact ih hys index m

end Expectation

end

/-! ### Whole pages -/

namespace Resolution

section

variable {engine : Template.Engine}

/-- Resolves the expectations of a page against a screen by the plain search. -/
def ofPagePlain (page : List Expectation) : Option Node → Resolution
  | none => ⟨[], [], page.map Expectation.element⟩
  | some root =>
    let (missing, notes) := Expectation.seekEachPlain (Snapshot.ofTree root) 0 {} page
    ⟨notes.sightings.map fun x => (x.identity, x.location), notes.captures, missing⟩

/-- **Without the preview the same is found of a page**: at the same locations, with the same
captured values, and with the same elements missing. -/
theorem ofPagePlain_eq {page : List Element} {xs : List Expectation}
    (hread : Expectation.ofElements page = .ok xs) (screen : Option Node) :
    ofPagePlain xs screen = ofPage xs screen := by
  cases screen with
  | none => rfl
  | some root =>
    rw [ofPagePlain, Expectation.seekEachPlain_eq page hread]
    rfl

end

/-- A page with a cell in a cell, and a text behind them. -/
def shelfPage : List Element :=
  [ ⟨.declared 1, .cell, none, none, none,
      [ ⟨.declared 2, .staticText, none, some "Milk", none, []⟩,
        ⟨.declared 3, .cell, none, none, none,
          [ ⟨.declared 4, .staticText, none, some "Bread", none, []⟩,
            ⟨.declared 5, .button, none, none, none, []⟩ ]⟩ ]⟩,
    ⟨.declared 6, .staticText, none, some "Total", none, []⟩ ]

/-- A screen for it on which the inner cell has no button. -/
def shelfScreen : Node :=
  ⟨{ kind := .application }, none, none,
    [ ⟨{ kind := .cell }, none, none,
        [ ⟨{ kind := .staticText, label := "Milk" }, none, none, []⟩,
          ⟨{ kind := .cell }, none, none,
            [⟨{ kind := .staticText, label := "Bread" }, none, none, []⟩]⟩ ]⟩,
      ⟨{ kind := .staticText, label := "Total" }, none, none, []⟩ ]⟩

/-- The page with its templates read. -/
def shelfExpectations : List Expectation :=
  match Expectation.ofElements shelfPage with
  | .ok xs => xs
  | .error _ => []

theorem ofElements_shelfPage : Expectation.ofElements shelfPage = .ok shelfExpectations := rfl

/-- The plain search notes the text in the inner cell before it misses the button, which the
preview does not do.  Nothing is left of this, or of the outer cell. -/
theorem ofPagePlain_eq_shelf :
    ofPagePlain shelfExpectations (some shelfScreen) = ofPage shelfExpectations (some shelfScreen) ∧
      (ofPagePlain shelfExpectations (some shelfScreen)).resolved.map Prod.fst = [.declared 6] ∧
      (ofPagePlain shelfExpectations (some shelfScreen)).missing.map Element.identity
        = [.declared 1] := by
  refine ⟨ofPagePlain_eq ofElements_shelfPage (some shelfScreen), ?_, ?_⟩
  · decide +kernel
  · decide +kernel

end Resolution

end ScreenPages
