import ScreenPages.Element
import ScreenPages.Location

/-!
# The element cache

A session remembers for each declared element the page it was last looked for with, and
where it was found.  Before each pass over a page all elements of the page are entered as
**pending**, and what an earlier pass over the same page left is dropped; so an element that
the pass does not find stays pending, and no location outlives the pass that found it.
Dynamic elements are never entered.

## Main definitions

* `Cache`, `Cache.Entry` — the cache and its entries.
* `Cache.register`, `Cache.set`, `Cache.get?` — the operations.

## Main results

* `Cache.get?_set` — what `set` stores is found again.
-/

namespace ScreenPages

/-- The page an element was last looked for with, and where it was found. -/
structure Cache.Entry where
  /-- The number of the page. -/
  page : Nat
  /-- The location, none while the element is pending. -/
  location : Option Location
  deriving DecidableEq, Repr, Inhabited

/-- Whether an element was not found by the last pass. -/
def Cache.Entry.isPending (e : Cache.Entry) : Bool := e.location.isNone

/-- The entries by identity; no identity has two. -/
structure Cache where
  entries : List (Identity × Cache.Entry) := []
  deriving DecidableEq, Repr, Inhabited

namespace Cache

/-- The entry of an identity. -/
def get? (c : Cache) (i : Identity) : Option Entry :=
  (c.entries.find? fun e => e.1 == i).map Prod.snd

/-- Enters an identity in place of what was entered for it; the dynamic one is left out. -/
def put (c : Cache) (i : Identity) (e : Entry) : Cache :=
  if i = .dynamic then c else ⟨(i, e) :: c.entries.filter fun f => f.1 != i⟩

/-- Drops the entries of a page and enters some identities as pending on it. -/
def register (c : Cache) (page : Nat) (is : List Identity) : Cache :=
  is.foldl (fun c i => c.put i ⟨page, none⟩) ⟨c.entries.filter fun e => e.2.page != page⟩

/-- Enters where an element was found on a page. -/
def set (c : Cache) (i : Identity) (page : Nat) (l : Location) : Cache := c.put i ⟨page, some l⟩

/-- The number of entries. -/
def size (c : Cache) : Nat := c.entries.length

/-- What `set` stores is found again, unless it is for the dynamic identity. -/
theorem get?_set (c : Cache) {i : Identity} (page : Nat) (l : Location) (h : i ≠ .dynamic) :
    (c.set i page l).get? i = some ⟨page, some l⟩ := by
  simp [set, put, get?, h]

end Cache

end ScreenPages
