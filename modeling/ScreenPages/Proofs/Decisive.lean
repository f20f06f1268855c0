import Mathlib.Data.Finset.Card
import ScreenPages.Proofs.Settled

/-!
# What decides an entry of the cache

Three things are done to a cache: a page is registered with what it declares, a location is
entered, and everything is dropped.  Each of them **concerns** some identities.  Registering a page
concerns those that the page declares now and those that it owns at that moment, so whether an
identity is concerned depends on what was done before: a page that another one took an identity
from has no say in it any more.  An operation decides the entries of the identities that it
concerns, whatever they were, and leaves all others as they are; so an entry is decided by the last
operation that concerned its identity.

## Main definitions

* `Cache.Operation`, `Cache.afterAll` — what can be done to a cache, and what it leads to.
* `Cache.Operation.Concerns`, `Cache.Operation.entryOf` — whether an operation concerns an
  identity, and the entry that it decides on.
* `Cache.Unconcerned` — none of several operations concerns an identity.

## Main results

* `Cache.Operation.get?_apply_of_concerns`, `Cache.Operation.get?_apply_of_not_concerns` — what an
  operation does to the entry of an identity.
* `Cache.get?_afterAll` — **an entry is decided by the last operation that concerned its identity.**
-/

namespace ScreenPages.Cache

/-! ### Operations -/

/-- What can be done to a cache. -/
inductive Operation where
  /-- A page is registered with the identities that it declares. -/
  | register (page : Nat) (is : List Identity) : Operation
  /-- The location at which an element was found on a page is entered. -/
  | set (i : Identity) (page : Nat) (l : Location) : Operation
  /-- Everything is dropped. -/
  | clear : Operation
  deriving DecidableEq, Repr, Inhabited

namespace Operation

/-- The cache after an operation. -/
def apply (op : Operation) (c : Cache) : Cache :=
  match op with
  | register page is => c.register page is
  | set i page l => c.set i page l
  | clear => {}

/-- Whether an operation on a cache concerns an identity: registering a page concerns what the page
declares and what it owns. -/
def Concerns (op : Operation) (i : Identity) (c : Cache) : Prop :=
  match op with
  | register page is => i ∈ is ∨ (c.get? i).map Entry.page = some page
  | set j _ _ => i = j
  | clear => True

/-- The entry that an operation decides on for an identity that it concerns. -/
def entryOf (op : Operation) (i : Identity) : Option Entry :=
  match op with
  | register page is => if i ∈ is then some ⟨page, none⟩ else none
  | set _ page l => some ⟨page, some l⟩
  | clear => none

variable {c : Cache} {i : Identity}

theorem apply_proper (op : Operation) (h : c.Proper) : (op.apply c).Proper := by
  cases op with
  | register page is => exact h.register page is
  | set i page l => exact h.put i _
  | clear => exact .empty

/-- **An operation decides the entries of the identities that it concerns.** -/
theorem get?_apply_of_concerns {op : Operation} (hop : op.Concerns i c) (h : c.Proper)
    (hi : i ≠ .dynamic) : (op.apply c).get? i = op.entryOf i := by
  cases op with
  | register page is =>
    rw [apply, get?_register h page is hi, entryOf]
    by_cases his : i ∈ is
    · rw [if_pos his, if_pos his]
    · rw [if_neg his, if_neg his]
      obtain ⟨e, hentry, hpage⟩ := Option.map_eq_some_iff.mp (Or.resolve_left hop his)
      rw [hentry, Option.filter_some_neg (by simpa using hpage)]
  | set j page l =>
    obtain rfl : i = j := hop
    exact get?_set c page l hi
  | clear => rfl

/-- An operation leaves the entries of all other identities as they are. -/
theorem get?_apply_of_not_concerns {op : Operation} (hop : ¬ op.Concerns i c) (h : c.Proper)
    (hi : i ≠ .dynamic) : (op.apply c).get? i = c.get? i := by
  cases op with
  | register page is =>
    obtain ⟨his, hpage⟩ := not_or.mp hop
    rw [apply, get?_register h page is hi, if_neg his]
    cases hentry : c.get? i with
    | none => rfl
    | some e => exact Option.filter_some_pos (by simpa [hentry] using hpage)
  | set j page l => exact (get?_put c j i _).trans (if_neg fun hj => hop hj.1)
  | clear => exact absurd trivial hop

end Operation

/-! ### One operation after the other -/

/-- The cache after some operations on an empty one. -/
def afterAll (ops : List Operation) : Cache := ops.foldl (fun c op => op.apply c) {}

/-- None of some operations that are done to a cache one after the other concerns an identity. -/
def Unconcerned (i : Identity) (c : Cache) : List Operation → Prop
  | [] => True
  | op :: ops => ¬ op.Concerns i c ∧ Unconcerned i (op.apply c) ops

variable {i : Identity}

theorem afterAll_concat (ops : List Operation) (op : Operation) :
    afterAll (ops ++ [op]) = op.apply (afterAll ops) := by
  rw [afterAll, List.foldl_append]
  rfl

theorem unconcerned_concat {c : Cache} {ops : List Operation} {op : Operation} :
    Unconcerned i c (ops ++ [op]) ↔
      Unconcerned i c ops ∧ ¬ op.Concerns i (ops.foldl (fun c op => op.apply c) c) := by
  induction ops generalizing c with
  | nil => simp [Unconcerned]
  | cons o ops ih => simp [Unconcerned, ih, and_assoc]

theorem proper_afterAll (ops : List Operation) : (afterAll ops).Proper := by
  induction ops using List.reverseRecOn with
  | nil => exact .empty
  | append_singleton ops op ih =>
    rw [afterAll_concat]
    exact op.apply_proper ih

/-- An identity that no operation concerned has no entry, and any other has the one that the last
operation to concern it decided on. -/
theorem unconcerned_or_exists_last (hi : i ≠ .dynamic) (ops : List Operation) :
    (Unconcerned i {} ops ∧ (afterAll ops).get? i = none) ∨
      ∃ before op after, ops = before ++ op :: after ∧ op.Concerns i (afterAll before) ∧
        Unconcerned i (afterAll (before ++ [op])) after ∧
        (afterAll ops).get? i = op.entryOf i := by
  induction ops using List.reverseRecOn with
  | nil => exact .inl ⟨trivial, rfl⟩
  | append_singleton ops last ih =>
    rw [afterAll_concat]
    by_cases hlast : last.Concerns i (afterAll ops)
    · have hget := Operation.get?_apply_of_concerns hlast (proper_afterAll ops) hi
      exact .inr ⟨ops, last, [], rfl, hlast, trivial, hget⟩
    · have hget := Operation.get?_apply_of_not_concerns hlast (proper_afterAll ops) hi
      rcases ih with ⟨hnone, hentry⟩ | ⟨before, op, after, rfl, hop, hafter, hentry⟩
      · exact .inl ⟨unconcerned_concat.mpr ⟨hnone, hlast⟩, hget.trans hentry⟩
      · refine .inr ⟨before, op, after ++ [last], by simp, hop, ?_, hget.trans hentry⟩
        refine unconcerned_concat.mpr ⟨hafter, ?_⟩
        rwa [afterAll, ← List.foldl_append, List.append_assoc, List.singleton_append]

/-- The identities with an entry are as many as there are entries. -/
theorem Proper.exists_card_eq_size {c : Cache} (h : c.Proper) :
    ∃ is : Finset Identity, (∀ i, i ∈ is ↔ (c.get? i).isSome) ∧ is.card = c.size := by
  refine ⟨(c.entries.map Prod.fst).toFinset, fun i => ?_, ?_⟩
  · simp [Option.isSome_iff_exists, get?_eq_some_iff h]
  · rw [List.toFinset_card_of_nodup h.distinct, List.length_map, size]

/-- **What a cache holds is decided by what was done to it.**  The dynamic identity has no entry.
Any other has none if no operation concerned it, and otherwise the one that the last operation to
concern it decided on: a pending one if a page was registered that declares it, none if its owner
was registered and no longer declares it or everything was dropped, and the location that was
entered.  The size is the number of identities that have an entry. -/
theorem get?_afterAll (ops : List Operation) :
    (afterAll ops).get? .dynamic = none ∧
      (∀ i, i ≠ .dynamic →
        (Unconcerned i {} ops ∧ (afterAll ops).get? i = none) ∨
          ∃ before op after, ops = before ++ op :: after ∧ op.Concerns i (afterAll before) ∧
            Unconcerned i (afterAll (before ++ [op])) after ∧
            (afterAll ops).get? i = op.entryOf i) ∧
      ∃ is : Finset Identity, (∀ i, i ∈ is ↔ ((afterAll ops).get? i).isSome) ∧
        is.card = (afterAll ops).size := by
  have hproper := proper_afterAll ops
  refine ⟨get?_dynamic hproper, fun i hi => ?_, hproper.exists_card_eq_size⟩
  exact unconcerned_or_exists_last hi ops

/-- A page that has lost an element to another page does not drop it. -/
example :
    (afterAll [.register 0 [.declared 1, .declared 2], .register 1 [.declared 1],
      .register 0 []]).entries = [(.declared 1, ⟨1, none⟩)] := by
  decide

end ScreenPages.Cache
