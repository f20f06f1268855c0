import Mathlib.Data.List.Forall2
import Mathlib.Tactic.SplitIfs
import ScreenPages.Json.Record

/-!
# What has been read

A reader ends with a value or with the first fault.  If it ends with a value, so did all of its
parts, and what is known of the parts is known of the whole.

## Main definitions

* `Json.Decoder.Preserve` — the fields of a record preserve what is said of its drafts.

## Main results

* `Except.exists_of_bind_eq_ok`, `Except.forall₂_of_mapM_eq_ok` — the parts of a computation that
  succeeds.
* `Except.eq_error_or_of_bind_eq_error`, `Except.exists_of_mapM_eq_error` — the part because of
  which a computation fails.
* `Json.Decoder.run_eq_ok_iff` — a text is read if its document is all of it and is read.
* `Json.Decoder.Preserve.record` — what the fields of a record preserve is true of the record.
-/

namespace List

/-- In lists that are related member by member, each member of the second has a partner. -/
theorem Forall₂.exists_of_mem_right {α β : Type} {R : α → β → Prop} {as : List α} {bs : List β}
    (h : Forall₂ R as bs) : ∀ b ∈ bs, ∃ a ∈ as, R a b := by
  induction h with
  | nil => intro b hb; cases hb
  | cons hab _ ih =>
    intro b hb
    rcases mem_cons.mp hb with rfl | hb
    · exact ⟨_, mem_cons_self, hab⟩
    · obtain ⟨a, ha, hab⟩ := ih b hb
      exact ⟨a, mem_cons_of_mem _ ha, hab⟩

end List

namespace Except

variable {ε ε' α β : Type}

/-- A computation in two parts that succeeds does so in both parts. -/
theorem exists_of_bind_eq_ok {x : Except ε α} {f : α → Except ε β} {b : β}
    (h : x >>= f = .ok b) : ∃ a, x = .ok a ∧ f a = .ok b := by
  cases x with
  | error fault => cases h
  | ok a => exact ⟨a, rfl, h⟩

/-- A computation in two parts that fails does so in the first or in the second part. -/
theorem eq_error_or_of_bind_eq_error {x : Except ε α} {f : α → Except ε β} {fault : ε}
    (h : x >>= f = .error fault) : x = .error fault ∨ ∃ a, x = .ok a ∧ f a = .error fault := by
  cases x with
  | error other =>
    cases h
    exact .inl rfl
  | ok a => exact .inr ⟨a, rfl, h⟩

/-- A value that is kept when the fault is forgotten is the one that was computed. -/
theorem toOption_eq_some_iff {x : Except ε α} {a : α} : x.toOption = some a ↔ x = .ok a := by
  cases x <;> simp [Except.toOption]

/-- A result does not depend on what is said about a fault. -/
theorem eq_ok_of_mapError_eq_ok {f : ε → ε'} {x : Except ε α} {a : α}
    (h : x.mapError f = .ok a) : x = .ok a := by
  cases x with
  | error fault => cases h
  | ok b =>
    cases h
    rfl

/-- If all of some values are computed, each of them is. -/
theorem forall₂_of_mapM_eq_ok {f : α → Except ε β} {as : List α} {bs : List β}
    (h : as.mapM f = .ok bs) : List.Forall₂ (fun a b => f a = .ok b) as bs := by
  induction as generalizing bs with
  | nil =>
    cases h
    exact .nil
  | cons a as ih =>
    rw [List.mapM_cons] at h
    obtain ⟨b, hb, h⟩ := exists_of_bind_eq_ok h
    obtain ⟨bs, hbs, h⟩ := exists_of_bind_eq_ok h
    cases h
    exact .cons hb (ih hbs)

/-- If not all of some values are computed, there is one that is not. -/
theorem exists_of_mapM_eq_error {f : α → Except ε β} {as : List α} {fault : ε}
    (h : as.mapM f = .error fault) : ∃ a ∈ as, f a = .error fault := by
  induction as with
  | nil => cases h
  | cons a as ih =>
    rw [List.mapM_cons] at h
    rcases eq_error_or_of_bind_eq_error h with ha | ⟨b, -, h⟩
    · exact ⟨a, List.mem_cons_self, ha⟩
    · rcases eq_error_or_of_bind_eq_error h with has | ⟨bs, -, h⟩
      · obtain ⟨x, hx, hfault⟩ := ih has
        exact ⟨x, List.mem_cons_of_mem a hx, hfault⟩
      · cases h

end Except

namespace ScreenPages.Json

/-- **Reading a text succeeds with what is read from its document, if that is all of the
text.** -/
theorem Decoder.run_eq_ok_iff {α : Type} {decoder : Decoder α} {s : String} {a : α} :
    decoder.run s = .ok a ↔
      ∃ d, Doc.read (Token.scan (Text.symbols s)) = (d, []) ∧ decoder nestingLimit d = .ok a := by
  rw [run, runSymbols, Doc.ofSymbols]
  generalize Doc.read (Token.scan (Text.symbols s)) = result
  obtain ⟨d, rest⟩ := result
  constructor
  · intro h
    obtain ⟨b, hb, h⟩ := Except.exists_of_bind_eq_ok h
    cases rest with
    | nil =>
      cases h
      exact ⟨d, rfl, hb⟩
    | cons t ts => cases h
  · rintro ⟨_, heq, ha⟩
    cases heq
    simp only [ha]
    rfl

/-- What is read from a whole text is read from what the text holds. -/
theorem Decoder.exists_of_run_eq_ok {α : Type} {decoder : Decoder α} {s : String} {a : α}
    (h : decoder.run s = .ok a) : ∃ d, decoder nestingLimit d = .ok a :=
  let ⟨d, _, hd⟩ := run_eq_ok_iff.mp h
  ⟨d, hd⟩

/-! ### What records are read from -/

/-- What a field puts into a draft has been read. -/
theorem RecordField.exists_of_read_eq_ok {σ α : Type} {name : String} {get : σ → Option α}
    {set : α → σ → σ} {decoder : Decoder α} {absence : RecordField.Absence} {limit : Nat}
    {d : Doc} {g : σ → σ} (h : (of name get set decoder absence).read limit d = .ok g) :
    ∃ a, decoder limit d = .ok a ∧ g = set a := by
  change (decoder limit d).map set = .ok g at h
  cases hd : decoder limit d with
  | error fault => rw [hd] at h; cases h
  | ok a => rw [hd] at h; cases h; exact ⟨a, rfl, rfl⟩

namespace Decoder

variable {σ : Type} {fields : List (RecordField σ)} {strict : Bool} {limit : Nat} {Inv : σ → Prop}

/-- The fields of a record preserve what is said of its drafts. -/
def Preserve (fields : List (RecordField σ)) (limit : Nat) (Inv : σ → Prop) : Prop :=
  ∀ f ∈ fields, ∀ d set s, f.read limit d = .ok set → Inv s → Inv (set s)

/-- A member of an object preserves what all fields preserve; one that is passed over leaves the
draft as it is. -/
theorem Preserve.member (h : Preserve fields limit Inv) {s t : σ} {m : List Piece × Doc}
    (hm : member fields strict limit s m = .ok t) (hs : Inv s) : Inv t := by
  obtain ⟨key, -, hm⟩ := Except.exists_of_bind_eq_ok hm
  cases hf : fields.find? fun f => f.name == key with
  | none =>
    simp only [hf] at hm
    cases strict with
    | true => cases hm
    | false =>
      obtain ⟨-, -, hm⟩ := Except.exists_of_bind_eq_ok hm
      cases hm
      exact hs
  | some f =>
    simp only [hf] at hm
    split_ifs at hm
    obtain ⟨set, hset, hm⟩ := Except.exists_of_bind_eq_ok hm
    cases hm
    exact h f (List.mem_of_find?_eq_some hf) _ set s hset hs

theorem Preserve.foldlM (h : Preserve fields limit Inv) :
    (ms : List (List Piece × Doc)) → {s t : σ} →
      ms.foldlM (Decoder.member fields strict limit) s = .ok t → Inv s → Inv t
  | [], s, t, hms, hs => by
    cases hms
    exact hs
  | m :: ms, s, t, hms, hs => by
    rw [List.foldlM_cons] at hms
    obtain ⟨u, hm, hms⟩ := Except.exists_of_bind_eq_ok hms
    exact h.foldlM ms hms (h.member hm hs)

theorem Preserve.positional {shortage : Nat → Fault} {stop : Doc.Stop} :
    {fields : List (RecordField σ)} → Preserve fields limit Inv → {done : Nat} →
      (ds : List Doc) → {s t : σ} → positional shortage limit done fields ds stop s = .ok t →
      Inv s → Inv t
  | [], _, _, [], s, t, hds, hs => by
    obtain ⟨-, -, hds⟩ := Except.exists_of_bind_eq_ok hds
    cases hds
    exact hs
  | [], _, _, _ :: _, _, _, hds, _ => by cases hds
  | f :: fs, h, _, d :: ds, s, t, hds, hs => by
    obtain ⟨set, hset, hds⟩ := Except.exists_of_bind_eq_ok hds
    have hfs : Preserve fs limit Inv := fun g hg => h g (List.mem_cons_of_mem f hg)
    exact hfs.positional ds hds (h f List.mem_cons_self d set s hset hs)
  | f :: fs, h, _, [], s, t, hds, hs => by
    obtain ⟨-, -, hds⟩ := Except.exists_of_bind_eq_ok hds
    have hfs : Preserve fs limit Inv := fun g hg => h g (List.mem_cons_of_mem f hg)
    split_ifs at hds
    exact hfs.positional [] hds hs

/-- **What the fields of a record preserve is true of the draft that is read**, whether it is
read from an object or from a list. -/
theorem Preserve.record {what : String} {start s : σ} {d : Doc} (h : Preserve fields limit Inv)
    (hd : record what fields strict start (limit + 1) d = .ok s) (hstart : Inv start) : Inv s := by
  cases d with
  | object ms stop =>
    obtain ⟨t, hms, hd⟩ := Except.exists_of_bind_eq_ok hd
    obtain ⟨-, -, hd⟩ := Except.exists_of_bind_eq_ok hd
    cases hd
    exact h.foldlM ms hms hstart
  | array ds stop => exact h.positional ds hd hstart
  | _ => cases hd

end Decoder

end ScreenPages.Json
