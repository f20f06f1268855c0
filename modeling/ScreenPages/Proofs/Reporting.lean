import Mathlib.Data.List.Nodup
import Mathlib.Data.List.Pairwise
import ScreenPages.CommandLine.Run
import ScreenPages.Proofs.Capturing
import ScreenPages.Proofs.Described
import ScreenPages.Proofs.Freshness
import ScreenPages.Proofs.Reading
import ScreenPages.Proofs.Rendering

/-!
# The report on a page

The tool looks for a declared page by one pass of a new session, and then puts its report
together from what the session remembers: the cache tells by identity where an element was found,
and the captured values tell by variable what was read.  Because the elements of a declared page
have identities of their own, the report tells exactly what the pass found: each element of the
page is listed with its location, or it is one of a single declaration that is missing.  What is
printed holds the same, as lines or as a value that the text is read as.

A page file is only accepted if all of its templates can be read, so the pass cannot fail.

## Main definitions

* `CommandLine.Findings.Tells` — a report tells what a pass over the page found.
* `CommandLine.Outcome.Reports` — the tool ends with the report of a pass.

## Main results

* `Element.identities_declareAnewList` — what is declared anew is numbered in document order.
* `PageFile.exists_ofElements` — the templates of an accepted page can be read.
* `Cache.location_afterPass` — what the cache tells of elements with identities of their own.
* `CommandLine.find_tells` — the findings of a check tell what its pass found.
* `CommandLine.run_check_reports` — the exit code and the output of a check.
-/

/-- What is left when repetitions are taken away has none. -/
theorem List.nodup_eraseDups {α : Type} [BEq α] [LawfulBEq α] : (l : List α) → l.eraseDups.Nodup
  | [] => by simp
  | a :: l => by
    rw [eraseDups_cons, nodup_cons]
    refine ⟨?_, nodup_eraseDups _⟩
    simp [mem_eraseDups]
  termination_by l => l.length
  decreasing_by exact Nat.lt_succ_of_le (length_filter_le _ l)

namespace ScreenPages

section

variable {engine : Template.Engine}

/-! ### Elements that are declared anew -/

namespace Element

mutual

theorem identities_declareAnew (next : Nat) :
    (e : Element) → (declareAnew next e).flatten.map identity
      = (List.range' next e.size).map .declared
  | ⟨identity, kind, identifier, label, value, children⟩ => by
    rw [declareAnew, flatten, List.map_cons, size, Nat.add_comm 1, List.range'_succ,
      List.map_cons]
    exact congrArg _ (identities_declareAnewList (next + 1) children)

/-- **What is declared anew is numbered in document order.** -/
theorem identities_declareAnewList (next : Nat) :
    (es : List Element) → identities (declareAnewList next es)
      = (List.range' next (sizeList es)).map .declared
  | [] => by rw [declareAnewList, identities, flattenList, sizeList, List.range'_zero]; rfl
  | e :: es => by
    have hes := identities_declareAnewList (next + e.size) es
    rw [identities] at hes
    rw [declareAnewList, identities, flattenList, List.map_append, hes,
      identities_declareAnew next e, sizeList, ← List.range'_append_1, List.map_append]

end

/-- No two of the elements that are declared anew have the same identity, and none of them is
dynamic. -/
theorem nodup_identities_declareAnewList (next : Nat) (es : List Element) :
    (identities (declareAnewList next es)).Nodup ∧
      .dynamic ∉ identities (declareAnewList next es) := by
  rw [identities_declareAnewList]
  refine ⟨?_, ?_⟩
  · exact (List.nodup_range' 1).map fun _ _ h => Identity.declared.inj h
  · simp

end Element

/-! ### Accepted page files -/

namespace PageFile

variable {text : String} {p : PageFile}

/-- An accepted page file is a page declaration whose templates can be read. -/
theorem ofText_eq_ok (h : ofText text = .ok p) :
    Json.Decoder.run decoder text = .ok p ∧ ∃ ts, p.templates = .ok ts := by
  obtain ⟨q, hq, h⟩ := Except.exists_of_bind_eq_ok h
  obtain ⟨ts, hts, h⟩ := Except.exists_of_bind_eq_ok h
  cases h
  exact ⟨Except.eq_ok_of_mapError_eq_ok hq, ts, Except.eq_ok_of_mapError_eq_ok hts⟩

/-- The elements of an accepted page are declared anew. -/
theorem exists_elements_eq (h : ofText text = .ok p) :
    ∃ es, p.elements = Element.declareAnewList 1 es := by
  obtain ⟨d, hd⟩ := Json.Decoder.exists_of_run_eq_ok (ofText_eq_ok h).1
  obtain ⟨draft, -, hd⟩ := Except.exists_of_bind_eq_ok hd
  obtain ⟨name, -, hd⟩ := Except.exists_of_bind_eq_ok hd
  cases hd
  exact ⟨_, rfl⟩

/-- **The elements of an accepted page have identities of their own.** -/
theorem nodup_identities (h : ofText text = .ok p) :
    (Element.identities p.elements).Nodup ∧ .dynamic ∉ Element.identities p.elements := by
  obtain ⟨es, hes⟩ := exists_elements_eq h
  rw [hes]
  exact Element.nodup_identities_declareAnewList 1 es

/-- **The templates of an accepted page can be read.** -/
theorem exists_ofElements (h : ofText text = .ok p) :
    ∃ xs, Expectation.ofElements p.elements = .ok xs := by
  obtain ⟨-, ts, hts⟩ := ofText_eq_ok h
  refine Expectation.exists_ofElements_iff.mpr fun s hs => ?_
  obtain ⟨t, -, ht⟩ := (Except.forall₂_of_mapM_eq_ok hts).flip.exists_of_mem_right s hs
  exact ⟨t, ht⟩

/-- No variable is listed twice. -/
theorem nodup_binders (p : PageFile) : p.binders.Nodup := by
  rw [binders]
  split
  · exact List.nodup_nil
  · exact List.nodup_eraseDups _

/-- The variables of an accepted page are those that its elements mention. -/
theorem mem_binders_iff (h : ofText text = .ok p) (v : Variable) :
    v ∈ p.binders ↔ Element.Mentions p.elements v := by
  obtain ⟨-, ts, hts⟩ := ofText_eq_ok h
  have hread := Except.forall₂_of_mapM_eq_ok hts
  rw [binders, hts]
  simp only [List.mem_eraseDups, List.mem_flatMap]
  constructor
  · rintro ⟨t, ht, hv⟩
    obtain ⟨s, hs, hst⟩ := hread.exists_of_mem_right t ht
    exact ⟨s, hs, t, hst, hv⟩
  · rintro ⟨s, hs, t, hst, hv⟩
    obtain ⟨t', ht', hst'⟩ := hread.flip.exists_of_mem_right s hs
    have heq : t' = t := Except.ok.inj (hst'.symm.trans hst)
    exact ⟨t, heq ▸ ht', hv⟩

end PageFile

/-! ### What is accepted and what is missing -/

namespace Outcomes

/-- Each element of a page is in or below an element that was accepted, or in or below one that
is missing. -/
theorem perm_flattenList (os : Outcomes) :
    (Element.flattenList os.accepted ++ Element.flattenList os.missing).Perm
      (Element.flattenList (os.map Prod.fst)) := by
  induction os with
  | nil => simp
  | cons o os ih =>
    obtain ⟨e, outcome⟩ := o
    rw [List.map_cons, Element.flattenList_cons, ← List.cons_append]
    cases outcome with
    | none =>
      rw [accepted_none, missing_none, Element.flattenList_cons, ← List.cons_append]
      refine List.Perm.trans ?_ (ih.append_left _)
      rw [← List.append_assoc, ← List.append_assoc]
      exact List.perm_append_comm.append_right _
    | some f =>
      rw [accepted_some, missing_some, Element.flattenList_cons, ← List.cons_append,
        List.append_assoc]
      exact ih.append_left _

/-- Of the elements of a page only those that were accepted are listed if nothing is told of
those that are missing. -/
theorem filterMap_flattenList {α : Type} {g : Element → Option α} (os : Outcomes)
    (h : ∀ e ∈ Element.flattenList os.missing, g e = none) :
    (Element.flattenList (os.map Prod.fst)).filterMap g
      = (Element.flattenList os.accepted).filterMap g := by
  induction os with
  | nil => rfl
  | cons o os ih =>
    obtain ⟨e, outcome⟩ := o
    rw [List.map_cons, Element.flattenList_cons, ← List.cons_append, List.filterMap_append]
    cases outcome with
    | none =>
      rw [missing_none, Element.flattenList_cons, ← List.cons_append, List.forall_mem_append] at h
      rw [accepted_none, List.filterMap_eq_nil_iff.mpr h.1, List.nil_append, ih h.2]
    | some f =>
      rw [missing_some] at h
      rw [accepted_some, Element.flattenList_cons, ← List.cons_append, List.filterMap_append,
        ih h]

end Outcomes

/-- What is in or below some elements is in or below one of them. -/
theorem Element.flattenList_eq_flatMap (es : List Element) :
    flattenList es = es.flatMap flatten := by
  induction es with
  | nil => rw [flattenList_nil, List.flatMap_nil]
  | cons e es ih => rw [flattenList, List.flatMap_cons, ih]

/-- If no two elements have the same identity, none is in or below two elements side by side. -/
theorem Element.eq_of_mem_flatten {es : List Element} (h : (flattenList es).Nodup)
    {e x y : Element} (hx : x ∈ es) (hy : y ∈ es) (hex : e ∈ x.flatten) (hey : e ∈ y.flatten) :
    x = y := by
  rw [flattenList_eq_flatMap, List.nodup_flatMap] at h
  have hsymm : Std.Symm (Function.onFun List.Disjoint flatten) :=
    ⟨fun _ _ hab => List.disjoint_symm hab⟩
  by_contra hne
  exact h.2.forall hx hy hne hex hey

/-- **Each element of a page was accepted or is part of one declaration that is missing** if no
identity occurs twice. -/
theorem Outcomes.accepted_or_missing {os : Outcomes}
    (h : (Element.identities (os.map Prod.fst)).Nodup) {e : Element}
    (he : e ∈ Element.flattenList (os.map Prod.fst)) :
    (e ∈ Element.flattenList os.accepted ∧ ∀ m ∈ os.missing, e ∉ m.flatten) ∨
      (e ∉ Element.flattenList os.accepted ∧ ∃! m, m ∈ os.missing ∧ e ∈ m.flatten) := by
  have hnodup : (Element.flattenList os.accepted ++ Element.flattenList os.missing).Nodup :=
    os.perm_flattenList.nodup_iff.mpr (List.Nodup.of_map _ h)
  obtain ⟨-, hmissing, hapart⟩ := List.nodup_append'.mp hnodup
  rcases List.mem_append.mp (os.perm_flattenList.mem_iff.mpr he) with he | he
  · refine .inl ⟨he, fun m hm hem => hapart he ?_⟩
    rw [Element.flattenList_eq_flatMap]
    exact List.mem_flatMap.mpr ⟨m, hm, hem⟩
  · obtain ⟨m, hm, hem⟩ := List.mem_flatMap.mp (Element.flattenList_eq_flatMap _ ▸ he)
    refine .inr ⟨fun haccepted => hapart haccepted he, m, ⟨hm, hem⟩, ?_⟩
    rintro m' ⟨hm', hem'⟩
    exact Element.eq_of_mem_flatten hmissing hm' hm hem' hem

/-! ### What the cache tells -/

namespace Cache

variable {c : Cache} {page : Nat} {is : List Identity} {found : List (Identity × Location)}

/-- The location that is cached for an identity. -/
def location (c : Cache) (i : Identity) : Option Location := (c.get? i).bind Entry.location

/-- **After a pass the cache tells where an identity was found** if it was found once. -/
theorem location_afterPass (hc : c.Proper) (hnodup : (found.map Prod.fst).Nodup)
    {x : Identity × Location} (hx : x ∈ found) (hdeclared : x.1 ≠ .dynamic) :
    (c.afterPass page is found).location x.1 = some x.2 := by
  rcases get?_afterPass hc page is found hdeclared with ⟨l, hl, hget⟩ | ⟨hnone, -⟩
  · have hsame : (x.1, l) = x := List.inj_on_of_nodup_map hnodup hl hx rfl
    rw [location, hget, Option.bind_some, ← hsame]
  · exact absurd rfl (hnone x hx)

/-- After a pass the cache tells no location of what was declared and not found. -/
theorem location_afterPass_of_not_mem (hc : c.Proper) {i : Identity} (hi : i ∈ is)
    (hnone : i ∉ found.map Prod.fst) (hdeclared : i ≠ .dynamic) :
    (c.afterPass page is found).location i = none := by
  rcases get?_afterPass hc page is found hdeclared with ⟨l, hl, -⟩ | ⟨-, hget⟩
  · exact absurd (List.mem_map_of_mem (f := Prod.fst) hl) hnone
  · rw [location, hget, if_pos hi]
    rfl

end Cache

/-- Elements that have locations are listed with them. -/
theorem Element.filterMap_location {es : List Element} {xs : List (Identity × Location)}
    {location : Identity → Option Location} (hxs : xs.map Prod.fst = es.map Element.identity)
    (h : ∀ x ∈ xs, location x.1 = some x.2) :
    let listed := es.filterMap fun e => (location e.identity).map fun l => (e, l)
    listed.map Prod.fst = es ∧ listed.map (fun r => (r.1.identity, r.2)) = xs := by
  induction es generalizing xs with
  | nil =>
    rw [List.map_nil, List.map_eq_nil_iff] at hxs
    exact ⟨rfl, hxs.symm⟩
  | cons e es ih =>
    obtain _ | ⟨x, xs⟩ := xs
    · cases hxs
    · rw [List.map_cons, List.map_cons, List.cons.injEq] at hxs
      obtain ⟨hx, hxs⟩ := hxs
      obtain ⟨hlocation, h⟩ := List.forall_mem_cons.mp h
      obtain ⟨hlisted, hlocations⟩ := ih hxs h
      rw [hx] at hlocation
      intro listed
      have hcons : listed = (e, x.2) :: es.filterMap fun e =>
          (location e.identity).map fun l => (e, l) :=
        List.filterMap_cons_some (by rw [hlocation, Option.map_some])
      rw [hcons, List.map_cons, List.map_cons, hlisted, hlocations, ← hx]
      exact ⟨rfl, rfl⟩

/-! ### What the cache tells of a pass -/

namespace Resolution

/-- The identities that were found are those of the accepted elements and of all below them. -/
theorem map_fst_resolved {xs : List Expectation} {root : Node} {os : Outcomes}
    (hassigned : Assigned (Snapshot.ofTree root) 0 os)
    (hsearch : search xs root = (os.missing,
      ({} : Notes).addAll (Snapshot.ofTree root) (Finding.flattenList os.found))) :
    (ofPage xs (some root)).resolved.map Prod.fst
      = (Element.flattenList os.accepted).map Element.identity := by
  have hplaces := congrArg (List.map Prod.fst)
    (Notes.map_sightings_addAll {} (Snapshot.ofTree root) (Finding.flattenList os.found))
  rw [Finding.map_identity_eq hassigned.forall₂_flattenList]
  simp only [ofPage, hsearch]
  simpa [Function.comp_def] using hplaces

end Resolution

/-- **The cache tells of a page exactly what the pass over it found** if its elements have
identities of their own: the elements with locations are those that were accepted and all below
them, and the locations are those that the pass recorded. -/
theorem Cache.listed_afterPass {os : Outcomes} {found : List (Identity × Location)}
    (hfound : found.map Prod.fst = (Element.flattenList os.accepted).map Element.identity)
    (hnodup : (Element.identities (os.map Prod.fst)).Nodup)
    (hdynamic : .dynamic ∉ Element.identities (os.map Prod.fst)) (page : Nat) :
    let cache := ({} : Cache).afterPass page (Element.identities (os.map Prod.fst)) found
    let listed := (Element.flattenList (os.map Prod.fst)).filterMap fun e =>
      (cache.location e.identity).map fun l => (e, l)
    listed.map Prod.fst = Element.flattenList os.accepted ∧
      listed.map (fun r => (r.1.identity, r.2)) = found := by
  intro cache listed
  have hperm := os.perm_flattenList.map Element.identity
  have hapart := hperm.nodup_iff.mpr hnodup
  rw [List.map_append] at hperm hapart
  obtain ⟨haccepted, -, hdisjoint⟩ := List.nodup_append'.mp hapart
  have hdeclared : ∀ i ∈ Element.identities (os.map Prod.fst), i ≠ .dynamic :=
    fun i hi heq => hdynamic (heq ▸ hi)
  -- nothing is told of what is in or below a missing element
  have hlisted : listed = (Element.flattenList os.accepted).filterMap fun e =>
      (cache.location e.identity).map fun l => (e, l) := by
    refine os.filterMap_flattenList fun e he => ?_
    have hi := List.mem_map_of_mem (f := Element.identity) he
    have hin := hperm.mem_iff.mp (List.mem_append_right _ hi)
    have hnone : e.identity ∉ found.map Prod.fst := by
      rw [hfound]
      exact fun hmem => hdisjoint hmem hi
    exact Option.map_eq_none_iff.mpr
      (location_afterPass_of_not_mem .empty hin hnone (hdeclared _ hin))
  rw [hlisted]
  refine Element.filterMap_location hfound fun x hx => ?_
  have hx' : x.1 ∈ (Element.flattenList os.accepted).map Element.identity :=
    hfound ▸ List.mem_map_of_mem hx
  exact location_afterPass .empty (hfound ▸ haccepted) hx
    (hdeclared _ (hperm.mem_iff.mp (List.mem_append_left _ hx')))

/-! ### The findings -/

/-- The place of a variable tells the variable. -/
theorem Variable.placeholder_injective : Function.Injective placeholder := by
  intro v w h
  have hchars : v.placeholderChars = w.placeholderChars := String.ofList_injective h
  exact placeholderChars_append_inj (congrArg (· ++ []) hchars)

end

namespace CommandLine

section

variable {engine : Template.Engine}

/-- A report tells what a pass over a page found: `r` is what the pass says, and `os` what it
makes of the elements at the top of the page. -/
structure Findings.Tells [Template.Engine] (f : Findings) (p : PageFile) (tree : Node)
    (r : Resolution) (os : Outcomes) : Prop where
  page : f.page = p.name
  /-- There is an outcome for each element at the top. -/
  top : os.map Prod.fst = p.elements
  /-- It is the one that the rule of placement gives. -/
  assigned : Assigned (Snapshot.ofTree tree) 0 os
  /-- The elements that were accepted are listed with all below them, in document order. -/
  resolved : f.resolved.map Prod.fst = Element.flattenList os.accepted
  /-- Each of them is listed with the location that the pass recorded for it. -/
  locations : f.resolved.map (fun x => (x.1.identity, x.2)) = r.resolved
  /-- The elements at the top that are missing are listed in order. -/
  missing : f.missing = os.missing ∧ f.missing = r.missing
  /-- Each declared element is listed, or it is part of one missing declaration. -/
  each : ∀ e ∈ Element.flattenList p.elements,
    (e ∈ f.resolved.map Prod.fst ∧ ∀ m ∈ f.missing, e ∉ m.flatten) ∨
      (e ∉ f.resolved.map Prod.fst ∧ ∃! m, m ∈ f.missing ∧ e ∈ m.flatten)
  /-- The captures of the pass are those of the accepted elements, one after the other. -/
  accepted : r.captures = (Finding.flattenList os.found).flatMap Finding.captures
  /-- Each variable has the value of the last capture of it, or none. -/
  captures : f.captures = p.binders.map fun v => (v.placeholder,
    ((r.captures.reverse.find? fun c => c.binder = v).map Capture.value).getD Captured.noValue)
  /-- These are the variables that the page mentions. -/
  binders : ∀ v, v ∈ p.binders ↔ Element.Mentions p.elements v
  /-- Each of them is listed once. -/
  once : (f.captures.map Prod.fst).Nodup

variable {p : PageFile} {tree : Node} {xs : List Expectation}

/-- The findings of a check are put together from the cache and the captured values that its
pass leaves. -/
theorem find_eq (h : Expectation.ofElements p.elements = .ok xs) :
    find p tree = .ok
      { page := p.name
        resolved := (Element.flattenList p.elements).filterMap fun e =>
          ((({} : Cache).afterPass 0 (Element.identities p.elements)
            (Resolution.ofPage xs (some tree)).resolved).location e.identity).map fun l => (e, l)
        missing := (Resolution.ofPage xs (some tree)).missing
        captures := p.binders.map fun v => (v.placeholder,
          (({} : Captured).record (Resolution.ofPage xs (some tree)).captures).read v) } := by
  rw [find]
  set s : Session :=
    { device := { screens := [(p.application, tree)] }
      pages := [{ name := p.name, application := p.application, bodies := [⟨p.elements, []⟩] }] }
    with hs
  have hlook : (s.lookAt 0).1 = p.elements := Page.Body.lookAt_mk_nil p.elements 1
  have hread : Expectation.ofElements (s.lookAt 0).1 = .ok xs := by rw [hlook, h]
  have hscreen : (s.device.snapshot (s.page 0).application).1.toOption = some tree := by
    simp [hs, Session.page, Device.snapshot, Device.receive, Device.nextFailure, Device.reached,
      Device.Screens.get?, Except.toOption]
  rw [Session.check, Session.resolve_of_ok hread, Session.surveyOf, hscreen, hlook]
  rfl

/-- **The findings of a check tell what its pass found.** -/
theorem find_tells {text : String} (hp : PageFile.ofText text = .ok p)
    (hread : Expectation.ofElements p.elements = .ok xs) (tree : Node) :
    ∃ f os, find p tree = .ok f ∧ f.Tells p tree (Resolution.ofPage xs (some tree)) os := by
  obtain ⟨hnodup, hdynamic⟩ := PageFile.nodup_identities hp
  obtain ⟨os, htop, hassigned, hsearch⟩ := Resolution.exists_search_eq hread tree
  have hmissing : (Resolution.ofPage xs (some tree)).missing = os.missing := by
    rw [Resolution.ofPage, hsearch]
  rw [← htop] at hnodup hdynamic
  obtain ⟨hresolved, hlocations⟩ := Cache.listed_afterPass
    (Resolution.map_fst_resolved hassigned hsearch) hnodup hdynamic 0
  rw [htop] at hresolved hlocations
  refine ⟨_, os, find_eq hread, rfl, htop, hassigned, hresolved, hlocations, ⟨hmissing, rfl⟩, ?_,
    ?_, ?_, PageFile.mem_binders_iff hp, ?_⟩
  · intro e he
    rw [← htop] at he
    simp only [hresolved, hmissing]
    exact Outcomes.accepted_or_missing hnodup he
  · rw [Resolution.ofPage, hsearch]
    exact Notes.captures_addAll {} _ _
  · refine List.map_congr_left fun v _ => ?_
    rw [Captured.read, Captured.get?_record]
    exact congrArg (fun value => (v.placeholder, value.getD Captured.noValue)) Option.or_none
  · rw [List.map_map]
    exact (PageFile.nodup_binders p).map Variable.placeholder_injective

/-- The report on an accepted page is what a check finds, in the form that is asked for. -/
theorem check_of_find {f : Findings} (h : find p tree = .ok f) (format : OutputFormat) :
    check format p tree =
      { output := f.rendered format
        fault := if f.missing.isEmpty then none else some (.pageMissing p.name) } := by
  rw [check, h]
  cases format with
  | text => rfl
  | json => rfl

/-! ### The tool -/

section Run

variable {arguments : List String} {fallback : Option String} {files : String → Text.File}
  {format : OutputFormat} {page tree pageText treeText : String}

/-- What is reported is printed, whether the job ends well or not. -/
theorem Outcome.output_ofReport (r : Report) : (Outcome.ofReport r).output = r.output := by
  obtain ⟨output, fault⟩ := r
  cases fault with
  | none => rfl
  | some fault => rfl

/-- What a check of an accepted page ends with: the code says whether nothing is missing, the
report tells what the pass found, and what is printed holds the report. -/
structure Outcome.Reports [Template.Engine] (o : Outcome) (format : OutputFormat) (p : PageFile)
    (root : Node) (xs : List Expectation) (f : Findings) (os : Outcomes) : Prop where
  read : Expectation.ofElements p.elements = .ok xs
  code : o.exitCode = if (Resolution.ofPage xs (some root)).isComplete then 0 else 1
  tells : f.Tells p root (Resolution.ofPage xs (some root)) os
  output : o.output = f.rendered format
  /-- What is printed holds what was found, what is missing and the captured values. -/
  printed : f.Printed format o.output

/-- A check of a page whose files are accepted reports what its pass finds. -/
theorem run_check_of_ok
    (hrequest : Request.ofArguments arguments fallback = some (.run format (.check page tree)))
    (hpage : Text.stored (files page) = .ok pageText)
    (htree : Text.stored (files tree) = .ok treeText) {p : PageFile} {root : Node}
    (hp : PageFile.ofText pageText = .ok p)
    (hroot : Json.Decoder.run Node.decoder treeText = .ok root) :
    ∃ xs f os, (run arguments fallback files).Reports format p root xs f os := by
  have hread : readPage page (files page) = .ok p := by
    simp only [readPage, PageFile.ofFile, hpage, hp, Except.mapError]
  have hreadTree : readTree tree (files tree) = .ok root := by
    simp only [readTree, htree, hroot, Except.mapError]
  obtain ⟨xs, hxs⟩ := PageFile.exists_ofElements hp
  obtain ⟨f, os, hfind, htells⟩ := find_tells hp hxs root
  have hrun : run arguments fallback files = .ofReport
      { output := f.rendered format
        fault := if f.missing.isEmpty then none else some (.pageMissing p.name) } := by
    rw [← check_of_find hfind]
    simp only [run, hrequest, perform, hread, hreadTree]
    rfl
  have hcomplete : (Resolution.ofPage xs (some root)).isComplete = f.missing.isEmpty := by
    rw [Resolution.isComplete, htells.missing.2]
  have houtput : (run arguments fallback files).output = f.rendered format := by
    rw [hrun, Outcome.output_ofReport]
  refine ⟨xs, f, os, hxs, ?_, htells, houtput, houtput ▸ f.printed_rendered format⟩
  rw [hcomplete, hrun]
  cases f.missing.isEmpty with
  | true => rfl
  | false => rfl

/-- A check of a page one of whose files is not accepted ends with code 2 and prints nothing. -/
theorem run_check_of_error
    (hrequest : Request.ofArguments arguments fallback = some (.run format (.check page tree)))
    (hpage : Text.stored (files page) = .ok pageText)
    (htree : Text.stored (files tree) = .ok treeText)
    (h : ¬ ∃ p root, PageFile.ofText pageText = .ok p ∧
      Json.Decoder.run Node.decoder treeText = .ok root) :
    (run arguments fallback files).exitCode = 2 ∧ (run arguments fallback files).output = "" := by
  cases hp : PageFile.ofText pageText with
  | error refusal =>
    have hread : readPage page (files page) = .error (.input refusal.message) := by
      simp only [readPage, PageFile.ofFile, hpage, hp, Except.mapError]
    simp only [run, hrequest, perform, hread]
    exact ⟨rfl, rfl⟩
  | ok p =>
    have hread : readPage page (files page) = .ok p := by
      simp only [readPage, PageFile.ofFile, hpage, hp, Except.mapError]
    cases hroot : Json.Decoder.run Node.decoder treeText with
    | ok root => exact absurd ⟨p, root, hp, hroot⟩ h
    | error fault =>
      have hreadTree : readTree tree (files tree)
          = .error (.input ("invalid tree dump " ++ tree ++ ": " ++ fault.message)) := by
        simp only [readTree, htree, hroot, Except.mapError]
      simp only [run, hrequest, perform, hread, hreadTree]
      exact ⟨rfl, rfl⟩

/-- **A check reports exactly what its pass finds.**  It ends with code 2 and prints nothing
exactly if the page file or the dump is not accepted.  Otherwise it ends with code 0 if nothing is
missing and with code 1 if something is, and prints a report that tells what the pass found: the
elements with their locations, the missing elements and the captured values can be read from it. -/
theorem run_check_reports
    (hrequest : Request.ofArguments arguments fallback = some (.run format (.check page tree)))
    (hpage : Text.stored (files page) = .ok pageText)
    (htree : Text.stored (files tree) = .ok treeText) :
    (((run arguments fallback files).exitCode = 2 ∧ (run arguments fallback files).output = "") ↔
      ¬ ∃ p root, PageFile.ofText pageText = .ok p ∧
        Json.Decoder.run Node.decoder treeText = .ok root) ∧
    ∀ p root, PageFile.ofText pageText = .ok p →
      Json.Decoder.run Node.decoder treeText = .ok root →
      ∃ xs f os, (run arguments fallback files).Reports format p root xs f os := by
  refine ⟨⟨?_, run_check_of_error hrequest hpage htree⟩, ?_⟩
  · rintro ⟨hcode, -⟩ ⟨p, root, hp, hroot⟩
    obtain ⟨xs, f, os, hreport⟩ := run_check_of_ok hrequest hpage htree hp hroot
    have hcode' := hreport.code
    rw [hcode] at hcode'
    split at hcode'
    · cases hcode'
    · cases hcode'
  · exact fun p root hp hroot => run_check_of_ok hrequest hpage htree hp hroot

end Run

end

/-- A page file that declares a text with a variable, and a cell with a button. -/
def cartPage : String :=
  "\x7b\"name\": \"Cart\", \"elements\": [\x7b\"type\": \"StaticText\", \"label\": \"Total "
    ++ Variable.placeholder Template.ones
    ++ "\"\x7d, \x7b\"type\": \"Cell\", \"children\": [\x7b\"type\": \"Button\"\x7d]\x7d]\x7d"

/-- The dump of a screen that shows the text, and a cell without a button. -/
def cartTree : String :=
  "\x7b\"type\": \"Application\", \"children\": [\x7b\"type\": \"StaticText\", "
    ++ "\"AXLabel\": \"Total 7\"\x7d, \x7b\"type\": \"Cell\"\x7d]\x7d"

/-- The files of a sample check. -/
def cartFiles (name : String) : Text.File :=
  .ok (if name = "cart.json" then cartPage else cartTree).toUTF8

/-- The arguments of the sample check. -/
def cartArguments : List String := ["check", "cart.json", "tree.json"]

/-- The sample check is of files that are accepted; it finds the text, captures from it, and
misses the cell. -/
theorem run_check_reports_cart :
    ((((run cartArguments none cartFiles).exitCode = 2 ∧
        (run cartArguments none cartFiles).output = "") ↔
      ¬ ∃ p root, PageFile.ofText cartPage = .ok p ∧
        Json.Decoder.run Node.decoder cartTree = .ok root) ∧
    ∀ p root, PageFile.ofText cartPage = .ok p →
      Json.Decoder.run Node.decoder cartTree = .ok root →
      ∃ xs f os, (run cartArguments none cartFiles).Reports .text p root xs f os) ∧
    (run cartArguments none cartFiles).exitCode = 1 ∧
    (run cartArguments none cartFiles).output = lines
      [ "✅ StaticText(label: \"Total \x7b11111111-1111-1111-1111-111111111111\x7d\") -> "
          ++ "Application > StaticText[\"Total 7\"] [0]",
        "⛔️ missing element Cell",
        "\x7b11111111-1111-1111-1111-111111111111\x7d = 7" ] := by
  have hpage : Text.stored (cartFiles "cart.json") = .ok cartPage := by
    rw [cartFiles, if_pos rfl, Text.stored_toUTF8]
  have htree : Text.stored (cartFiles "tree.json") = .ok cartTree := by
    rw [cartFiles, if_neg (by decide), Text.stored_toUTF8]
  refine ⟨run_check_reports ?_ hpage htree, ?_⟩
  · decide +kernel
  · decide +kernel

end CommandLine

end ScreenPages
