import ScreenPages.Proofs.Rereading

/-!
# The value of a text

A JSON text has one value.  Readers give up on values with too many lists and objects inside each
other, so the value is read within every limit that it keeps to, and within no other.  The text that
is written of a value holds the value.

## Main definitions

* `Json.Value.depth` — how many lists and objects of a value are inside each other.
* `Json.Decoder.Origin` — what a value is read from.
* `Json.Holds` — a text is JSON, and this is its value.

## Main results

* `Json.Decoder.value_eq_ok_iff_origin` — a value is read exactly from what it can be read from.
* `Json.Decoder.depth_le_of_value_eq_ok`, `Json.Decoder.value_of_depth_le` — **a value is read within
  the limits that its depth keeps to, and within no others.**
* `Json.Holds.unique` — **a text has one value.**
* `Json.Holds.compact` — the text of a value holds it.
-/

namespace List

/-- What is related member by member may be related in another way, if that is known of the members
of the second list. -/
theorem Forall₂.imp_of_mem_right {α β : Type} {R S : α → β → Prop} {as : List α} {bs : List β}
    (h : Forall₂ R as bs) (hrs : ∀ a, ∀ b ∈ bs, R a b → S a b) : Forall₂ S as bs := by
  have hmem : Forall₂ (fun b a => b ∈ bs ∧ R a b) bs as :=
    (forall₂_and_left bs as).mpr ⟨fun _ hb => hb, h.flip⟩
  exact hmem.flip.imp fun a b hab => hrs a b hab.1 hab.2

end List

namespace Except

variable {ε α β : Type}

/-- A result that is changed is a result. -/
theorem exists_of_map_eq_ok {x : Except ε α} {f : α → β} {b : β} (h : x.map f = .ok b) :
    ∃ a, x = .ok a ∧ f a = b := by
  cases x with
  | error fault => cases h
  | ok a => exact ⟨a, rfl, Except.ok.inj h⟩

/-- All of some values are computed exactly if each of them is. -/
theorem mapM_eq_ok_iff {f : α → Except ε β} {as : List α} {bs : List β} :
    as.mapM f = .ok bs ↔ List.Forall₂ (fun a b => f a = .ok b) as bs := by
  refine ⟨forall₂_of_mapM_eq_ok, fun h => ?_⟩
  induction h with
  | nil => rfl
  | cons hab _ ih =>
    rw [List.mapM_cons, hab, ih]
    rfl

end Except

namespace ScreenPages.Json

/-! ### Values and the limit -/

namespace Value

mutual

/-- How many lists and objects of a value are inside each other. -/
def depth : Value → Nat
  | .array items => depthOfItems items + 1
  | .object fields => depthOfFields fields + 1
  | _ => 0

/-- The depth of the deepest of some values. -/
def depthOfItems : List Value → Nat
  | [] => 0
  | v :: vs => max (depth v) (depthOfItems vs)

/-- The depth of the deepest of the values of some fields. -/
def depthOfFields : List (String × Value) → Nat
  | [] => 0
  | (_, v) :: fs => max (depth v) (depthOfFields fs)

end

theorem depthOfItems_le_iff {vs : List Value} {n : Nat} :
    depthOfItems vs ≤ n ↔ ∀ v ∈ vs, v.depth ≤ n := by
  induction vs with
  | nil => simp [depthOfItems]
  | cons v vs ih => rw [depthOfItems, Nat.max_le, ih, List.forall_mem_cons]

theorem depthOfFields_le_iff {fs : List (String × Value)} {n : Nat} :
    depthOfFields fs ≤ n ↔ ∀ f ∈ fs, f.2.depth ≤ n := by
  induction fs with
  | nil => simp [depthOfFields]
  | cons f fs ih => rw [depthOfFields, Nat.max_le, ih, List.forall_mem_cons]

end Value

namespace Decoder

open Value (depth)

variable {limit : Nat} {v : Value}

/-- A member of an object is read as a field: its key is a text, and its value is read. -/
def ReadsMember (limit : Nat) (m : List Piece × Doc) (f : String × Value) : Prop :=
  Piece.content m.1 = .ok f.1 ∧ value limit m.2 = .ok f.2

theorem check_eq_ok_iff {fault : Doc.Stop → Fault} {stop : Doc.Stop} {u : Unit} :
    stop.check fault = .ok u ↔ stop = .closed := by
  cases stop <;> simp [Doc.Stop.check]

/-- What a value is read from. -/
inductive Origin : Nat → Doc → Value → Prop
  | null {limit : Nat} : Origin limit .null .null
  | flag {limit : Nat} {b : Bool} : Origin limit (.flag b) (.flag b)
  | number {limit : Nat} {m : Numeral} {n : Number} (h : m.value = .ok n) :
    Origin limit (.number m) (.number n)
  | text {limit : Nat} {pieces : List Piece} {s : String} (h : Piece.content pieces = .ok s) :
    Origin limit (.text pieces) (.text s)
  /-- A list is opened and has to end well. -/
  | array {limit : Nat} {ds : List Doc} {vs : List Value}
    (h : List.Forall₂ (fun d v => value limit d = .ok v) ds vs) :
    Origin (limit + 1) (.array ds .closed) (.array vs)
  /-- An object is opened and has to end well. -/
  | object {limit : Nat} {ms : List (List Piece × Doc)} {fs : List (String × Value)}
    (h : List.Forall₂ (ReadsMember limit) ms fs) :
    Origin (limit + 1) (.object ms .closed) (.object fs)

theorem readsMember_iff {m : List Piece × Doc} {f : String × Value} :
    (do let name ← Piece.content m.1; return (name, ← value limit m.2)) = .ok f ↔
      ReadsMember limit m f := by
  constructor
  · intro h
    obtain ⟨name, hname, h⟩ := Except.exists_of_bind_eq_ok h
    obtain ⟨w, hw, h⟩ := Except.exists_of_bind_eq_ok h
    cases h
    exact ⟨hname, hw⟩
  · rintro ⟨hname, hw⟩
    rw [hname, hw]
    rfl

/-- **A value is read exactly from what it can be read from.** -/
theorem value_eq_ok_iff_origin {d : Doc} : value limit d = .ok v ↔ Origin limit d v := by
  constructor
  · intro h
    cases d with
    | null | flag b =>
      rw [value] at h
      cases h
      constructor
    | number m =>
      rw [value] at h
      obtain ⟨n, hn, rfl⟩ := Except.exists_of_map_eq_ok h
      exact .number hn
    | text pieces =>
      rw [value] at h
      obtain ⟨s, hs, rfl⟩ := Except.exists_of_map_eq_ok h
      exact .text hs
    | gap g =>
      rw [value] at h
      cases h
    | array ds stop =>
      cases limit with
      | zero => cases h
      | succ limit =>
        obtain ⟨vs, hvs, h⟩ := Except.exists_of_bind_eq_ok h
        obtain ⟨_, hstop, h⟩ := Except.exists_of_bind_eq_ok h
        cases h
        rw [check_eq_ok_iff.mp hstop]
        exact .array (Except.mapM_eq_ok_iff.mp hvs)
    | object ms stop =>
      cases limit with
      | zero => cases h
      | succ limit =>
        obtain ⟨fs, hfs, h⟩ := Except.exists_of_bind_eq_ok h
        obtain ⟨_, hstop, h⟩ := Except.exists_of_bind_eq_ok h
        cases h
        rw [check_eq_ok_iff.mp hstop]
        exact .object ((Except.mapM_eq_ok_iff.mp hfs).imp fun _ _ => readsMember_iff.mp)
  · intro h
    cases h with
    | null | flag => rw [value]
    | number h | text h =>
      rw [value, h]
      rfl
    | array h =>
      rw [value, Except.mapM_eq_ok_iff.mpr h]
      rfl
    | object h =>
      rw [value, Except.mapM_eq_ok_iff.mpr (h.imp fun _ _ => readsMember_iff.mpr)]
      rfl

/-- A value that is read is within the limit. -/
theorem depth_le_of_value_eq_ok {d : Doc} (h : value limit d = .ok v) : v.depth ≤ limit := by
  induction limit generalizing d v with
  | zero => cases value_eq_ok_iff_origin.mp h <;> exact Nat.zero_le _
  | succ limit ih =>
    cases value_eq_ok_iff_origin.mp h with
    | array hvs =>
      rw [depth, Nat.add_le_add_iff_right, Value.depthOfItems_le_iff]
      intro v hv
      obtain ⟨d, -, hd⟩ := hvs.exists_of_mem_right v hv
      exact ih hd
    | object hfs =>
      rw [depth, Nat.add_le_add_iff_right, Value.depthOfFields_le_iff]
      intro f hf
      obtain ⟨m, -, hm⟩ := hfs.exists_of_mem_right f hf
      exact ih hm.2
    | _ => exact Nat.zero_le _

/-- A value that is read within one limit is read within every other limit that it keeps to. -/
theorem value_of_depth_le {limit' : Nat} {d : Doc} (h : value limit d = .ok v)
    (hv : v.depth ≤ limit') : value limit' d = .ok v := by
  rw [value_eq_ok_iff_origin]
  induction limit generalizing d v limit' with
  | zero => cases value_eq_ok_iff_origin.mp h <;> constructor <;> assumption
  | succ limit ih =>
    cases value_eq_ok_iff_origin.mp h with
    | array hvs =>
      obtain ⟨n, rfl⟩ : ∃ n, limit' = n + 1 := ⟨limit' - 1, by rw [depth] at hv; omega⟩
      rw [depth, Nat.add_le_add_iff_right, Value.depthOfItems_le_iff] at hv
      exact .array (hvs.imp_of_mem_right fun d v hmem hd =>
        value_eq_ok_iff_origin.mpr (ih hd (hv v hmem)))
    | object hfs =>
      obtain ⟨n, rfl⟩ : ∃ n, limit' = n + 1 := ⟨limit' - 1, by rw [depth] at hv; omega⟩
      rw [depth, Nat.add_le_add_iff_right, Value.depthOfFields_le_iff] at hv
      exact .object (hfs.imp_of_mem_right fun m f hmem hf =>
        ⟨hf.1, value_eq_ok_iff_origin.mpr (ih hf.2 (hv f hmem))⟩)
    | _ => constructor <;> assumption

/-- A document has one value. -/
theorem value_unique {limit' : Nat} {d : Doc} {w : Value} (hv : value limit d = .ok v)
    (hw : value limit' d = .ok w) : v = w := by
  have hv' := value_of_depth_le hv (Nat.le_max_left v.depth w.depth)
  have hw' := value_of_depth_le hw (Nat.le_max_right v.depth w.depth)
  exact Except.ok.inj (hv'.symm.trans hw')

end Decoder

/-! ### The value of a text -/

/-- A text is JSON from its first to its last character, and this is its value, however deep it
is. -/
def Holds (s : String) (v : Value) : Prop :=
  ∃ d limit, Doc.read (Token.scan (Text.symbols s)) = (d, []) ∧ Decoder.value limit d = .ok v

/-- **A text has one value.** -/
theorem Holds.unique {s : String} {v w : Value} (hv : Holds s v) (hw : Holds s w) : v = w := by
  obtain ⟨d, limit, hread, hv⟩ := hv
  obtain ⟨d', limit', hread', hw⟩ := hw
  obtain ⟨rfl, -⟩ := Prod.mk.inj (hread.symm.trans hread')
  exact Decoder.value_unique hv hw

/-- A number is read back from its text. -/
def Number.Reread (n : Number) : Prop :=
  ∃ m, Token.scan (Text.symbols n.text) = [.number m] ∧ m.value = .ok n

open Decoder (value value_eq_ok_iff_origin ReadsMember) in
mutual

/-- A value is read from its document. -/
theorem Value.value_doc {limit : Nat} : (v : Value) → (∀ n ∈ v.numbers, n.Reread) →
    v.depth ≤ limit → value limit v.doc = .ok v
  | .null, _, _ => value_eq_ok_iff_origin.mpr .null
  | .flag _, _, _ => value_eq_ok_iff_origin.mpr .flag
  | .text s, _, _ => value_eq_ok_iff_origin.mpr (.text (Piece.content_piecesOf s))
  | .number n, h, _ => by
    obtain ⟨m, hscan, hm⟩ := h n (by simp [numbers])
    rw [doc, hscan]
    exact value_eq_ok_iff_origin.mpr (.number hm)
  | .array vs, h, hdepth => by
    rw [numbers] at h
    rw [depth] at hdepth
    obtain ⟨limit, rfl⟩ : ∃ n, limit = n + 1 := ⟨limit - 1, by omega⟩
    exact value_eq_ok_iff_origin.mpr (.array (forall₂_docs vs h (by omega)))
  | .object fs, h, hdepth => by
    rw [numbers] at h
    rw [depth] at hdepth
    obtain ⟨limit, rfl⟩ : ∃ n, limit = n + 1 := ⟨limit - 1, by omega⟩
    exact value_eq_ok_iff_origin.mpr (.object (forall₂_memberDocs fs h (by omega)))

theorem Value.forall₂_docs {limit : Nat} : (vs : List Value) →
    (∀ n ∈ numbersOfItems vs, n.Reread) → depthOfItems vs ≤ limit →
    List.Forall₂ (fun d v => value limit d = .ok v) (docs vs) vs
  | [], _, _ => .nil
  | v :: vs, h, hdepth => by
    rw [numbersOfItems, List.forall_mem_append] at h
    rw [depthOfItems, Nat.max_le] at hdepth
    exact .cons (Value.value_doc v h.1 hdepth.1) (forall₂_docs vs h.2 hdepth.2)

theorem Value.forall₂_memberDocs {limit : Nat} : (fs : List (String × Value)) →
    (∀ n ∈ numbersOfFields fs, n.Reread) → depthOfFields fs ≤ limit →
    List.Forall₂ (ReadsMember limit) (memberDocs fs) fs
  | [], _, _ => .nil
  | (k, v) :: fs, h, hdepth => by
    rw [numbersOfFields, List.forall_mem_append] at h
    rw [depthOfFields, Nat.max_le] at hdepth
    exact .cons ⟨Piece.content_piecesOf k, Value.value_doc v h.1 hdepth.1⟩
      (forall₂_memberDocs fs h.2 hdepth.2)

end

/-- **The text of a value holds the value** if its numbers are read back. -/
theorem Holds.compact {v : Value} (h : ∀ n ∈ v.numbers, n.Reread) : Holds v.compact v := by
  have hlegible : v.Legible := fun n hn => (h n hn).imp fun _ hm => hm.1
  have hsymbols : ((Doc.read (Token.scan (Text.symbols v.compact))).1,
      (Doc.read (Token.scan (Text.symbols v.compact))).2.isEmpty) = (v.doc, true) :=
    Value.ofSymbols_compact hlegible
  obtain ⟨hdoc, hrest⟩ := Prod.mk.inj hsymbols
  exact ⟨v.doc, v.depth, Prod.ext hdoc (List.isEmpty_iff.mp hrest), v.value_doc h (Nat.le_refl _)⟩

end ScreenPages.Json
