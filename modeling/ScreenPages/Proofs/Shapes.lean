import Mathlib.Data.List.Nodup
import ScreenPages.Proofs.Held

/-!
# What a decoder accepts

A decoder goes through a document once, opens lists and objects, and stops at the first fault.  What
it accepts can be said without all this: the text holds a JSON value, the value has a certain shape,
and it keeps to the limit.  For a record the shape is that of its fields: they may be named, in any
order, or listed in their declared order, and in both forms a strict record has no other fields and
none of them twice.

## Main definitions

* `Json.Decoder.Reads` — a decoder accepts the values of a shape.
* `Json.Value.Record` — the fields that a value gives for a record.
* `Json.Decoder.Fill` — the fields of a record fill its drafts.
* `Json.ShapedField` — a field with the shape of its values.

## Main results

* `Json.Decoder.Reads.run_sound`, `Json.Decoder.Reads.run_complete` — **a text is accepted if its
  value has the shape** and keeps to the limit.
* `Json.Decoder.Fill.record_sound`, `Json.Decoder.Fill.record_complete` — **a strict record is read
  exactly if its fields are**, in either form.
* `Json.ShapedField.Apart.reads_record` — a strict record is accepted as its fields say.
-/

namespace List

/-- The value of a key is the first one. -/
theorem lookup_append_cons_self {α β : Type} [BEq α] [LawfulBEq α] {k : α} {v : β}
    {xs ys : List (α × β)} (h : k ∉ xs.map Prod.fst) : (xs ++ (k, v) :: ys).lookup k = some v :=
  lookup_eq_some_iff.mpr ⟨xs, ys, rfl, fun _ hp => bne_iff_ne.mpr fun heq =>
    h (heq ▸ mem_map_of_mem hp)⟩

theorem isSome_lookup_iff {α β : Type} [BEq α] [LawfulBEq α] {k : α} {xs : List (α × β)} :
    (xs.lookup k).isSome = true ↔ k ∈ xs.map Prod.fst := by
  rw [lookup_isSome_iff, mem_map]
  simp only [beq_iff_eq, eq_comm (a := k)]

end List

/-- In options that are related, there is something in both or in neither. -/
theorem Option.Rel.isSome_eq {α β : Type} {r : α → β → Prop} {o : Option α} {o' : Option β}
    (h : Option.Rel r o o') : o.isSome = o'.isSome := by
  cases h <;> rfl

namespace ScreenPages.Json

namespace Value

/-- A text that may be absent as a value. -/
def textOrNull (o : Option String) : Value := o.elim .null .text

/-- A value is a list of what has to do with the members of another list, in order. -/
def ListOf {α : Type} (R : Value → α → Prop) (v : Value) (as : List α) : Prop :=
  ∃ vs, v = .array vs ∧ List.Forall₂ R vs as

end Value

namespace Decoder

variable {α β σ : Type} {limit : Nat}

/-! ### Shapes -/

/-- Within a limit a decoder accepts the values of a shape: what it reads has to do with the value as
`R` says, and it reads every value that has to do with something. -/
structure Reads (limit : Nat) (decoder : Decoder α) (R : Value → α → Prop) : Prop where
  sound : ∀ {d a}, decoder limit d = .ok a → ∃ v, value limit d = .ok v ∧ R v a
  complete : ∀ {d v a}, value limit d = .ok v → R v a → ∃ b, decoder limit d = .ok b

namespace Reads

variable {decoder : Decoder α} {R : Value → α → Prop}

/-- What is accepted within a limit does not depend on what is read within other limits. -/
theorem congr {decoder' : Decoder α} (h : Reads limit decoder R)
    (heq : decoder' limit = decoder limit) : Reads limit decoder' R where
  sound hd := h.sound (heq ▸ hd)
  complete hv hR := heq ▸ h.complete hv hR

/-- A shape may be described in another way. -/
theorem of_iff {S : Value → α → Prop} (h : Reads limit decoder R) (hiff : ∀ v a, R v a ↔ S v a) :
    Reads limit decoder S where
  sound hd := by
    obtain ⟨v, hv, hR⟩ := h.sound hd
    exact ⟨v, hv, (hiff v _).mp hR⟩
  complete hv hS := h.complete hv ((hiff _ _).mpr hS)

/-- What is read from a text is read from its value, which keeps to the limit. -/
theorem run_sound (h : Reads nestingLimit decoder R) {s : String} {a : α}
    (hs : decoder.run s = .ok a) : ∃ v, Holds s v ∧ v.depth ≤ nestingLimit ∧ R v a := by
  obtain ⟨d, hread, hd⟩ := run_eq_ok_iff.mp hs
  obtain ⟨v, hv, hR⟩ := h.sound hd
  exact ⟨v, ⟨d, nestingLimit, hread, hv⟩, depth_le_of_value_eq_ok hv, hR⟩

/-- A text is read if its value has the shape and keeps to the limit. -/
theorem run_complete (h : Reads nestingLimit decoder R) {s : String} {v : Value} {a : α}
    (hs : Holds s v) (hv : v.depth ≤ nestingLimit) (hR : R v a) : ∃ b, decoder.run s = .ok b := by
  obtain ⟨d, limit, hread, hd⟩ := hs
  obtain ⟨b, hb⟩ := h.complete (value_of_depth_le hd hv) hR
  exact ⟨b, run_eq_ok_iff.mpr ⟨d, hread, hb⟩⟩

end Reads

/-- Texts are read. -/
theorem reads_textNamed (limit : Nat) (expected : String) :
    Reads limit (textNamed expected) fun v s => v = .text s where
  sound {d s} h := by
    cases d with
    | text pieces => exact ⟨.text s, value_eq_ok_iff_origin.mpr (.text h), rfl⟩
    | _ => cases h
  complete {d v s} hv hs := by
    subst hs
    cases value_eq_ok_iff_origin.mp hv with
    | text h => exact ⟨s, h⟩

/-- Texts whose content is read further are read. -/
theorem reads_textWith (limit : Nat) (expected : String) (read : String → Except String α) :
    Reads limit (textWith expected read) fun v a => ∃ s, v = .text s ∧ read s = .ok a where
  sound {d a} h := by
    obtain ⟨s, hs, h⟩ := Except.exists_of_bind_eq_ok h
    obtain ⟨v, hv, rfl⟩ := (reads_textNamed limit expected).sound hs
    refine ⟨.text s, hv, s, rfl, ?_⟩
    cases hread : read s with
    | error reason =>
      simp only [hread] at h
      cases h
    | ok b =>
      simp only [hread] at h
      cases h
      rfl
  complete {d v a} hv := by
    rintro ⟨s, rfl, hread⟩
    cases value_eq_ok_iff_origin.mp hv with
    | text h => exact ⟨a, by simp only [textWith, textNamed, h, bind, Except.bind, hread]⟩

/-- Texts are read where they may be absent, and so is `null`. -/
theorem reads_optional_text (limit : Nat) :
    Reads limit (optional text) fun v o => v = Value.textOrNull o where
  sound {d o} h := by
    cases d with
    | null =>
      cases h
      exact ⟨.null, value_eq_ok_iff_origin.mpr .null, rfl⟩
    | text pieces =>
      obtain ⟨s, hs, rfl⟩ := Except.exists_of_map_eq_ok (x := text limit (.text pieces)) h
      exact (reads_textNamed limit "a string").sound hs
    | _ => cases h
  complete {d v o} hv ho := by
    subst ho
    cases o with
    | none =>
      cases value_eq_ok_iff_origin.mp hv with
      | null => exact ⟨none, rfl⟩
    | some s =>
      cases value_eq_ok_iff_origin.mp hv with
      | text h => exact ⟨some s, congrArg (Except.map some) h⟩

namespace Reads

variable {decoder : Decoder α} {R : Value → α → Prop}

theorem mapM_sound (h : Reads limit decoder R) {ds : List Doc} {as : List α}
    (has : ds.mapM (decoder limit) = .ok as) :
    ∃ vs, List.Forall₂ (fun d v => value limit d = .ok v) ds vs ∧ List.Forall₂ R vs as := by
  have hread := Except.mapM_eq_ok_iff.mp has
  clear has
  induction hread with
  | nil => exact ⟨[], .nil, .nil⟩
  | cons hd _ ih =>
    obtain ⟨v, hv, hR⟩ := h.sound hd
    obtain ⟨vs, hvs, hRs⟩ := ih
    exact ⟨v :: vs, .cons hv hvs, .cons hR hRs⟩

theorem mapM_complete (h : Reads limit decoder R) {ds : List Doc} {vs : List Value} {as : List α}
    (hvs : List.Forall₂ (fun d v => value limit d = .ok v) ds vs) (hR : List.Forall₂ R vs as) :
    ∃ bs, ds.mapM (decoder limit) = .ok bs := by
  induction hvs generalizing as with
  | nil => exact ⟨[], rfl⟩
  | cons hv _ ih =>
    obtain _ | ⟨hva, hR⟩ := hR
    obtain ⟨b, hb⟩ := h.complete hv hva
    obtain ⟨bs, hbs⟩ := ih hR
    exact ⟨b :: bs, by rw [List.mapM_cons, hb, hbs]; rfl⟩

/-- Lists are read if their items are, one level below. -/
theorem list (h : ∀ n, limit = n + 1 → Reads n decoder R) :
    Reads limit (list decoder) (Value.ListOf R) where
  sound {d as} hd := by
    cases d with
    | array ds stop =>
      cases limit with
      | zero => cases hd
      | succ n =>
        obtain ⟨bs, hbs, hd⟩ := Except.exists_of_bind_eq_ok hd
        obtain ⟨_, hstop, hd⟩ := Except.exists_of_bind_eq_ok hd
        cases hd
        obtain ⟨vs, hvs, hR⟩ := (h n rfl).mapM_sound hbs
        rw [check_eq_ok_iff.mp hstop]
        exact ⟨.array vs, value_eq_ok_iff_origin.mpr (.array hvs), vs, rfl, hR⟩
    | _ => cases limit <;> cases hd
  complete {d v as} hv := by
    rintro ⟨vs, rfl, hR⟩
    cases value_eq_ok_iff_origin.mp hv with
    | array hvs =>
      obtain ⟨bs, hbs⟩ := (h _ rfl).mapM_complete hvs hR
      exact ⟨bs, by rw [Decoder.list, hbs]; rfl⟩

end Reads

end Decoder

/-! ### Records -/

theorem orMissing_eq_ok_iff {α : Type} {name : String} {o : Option α} {a : α} :
    orMissing name o = .ok a ↔ o = some a := by
  cases o <;> simp [orMissing]

/-- The fields that a value gives for a record with certain keys.  An object names them, in any
order; a list has them in the order of the keys, and may leave out the last ones. -/
inductive Value.Record (keys : List String) : Value → List (String × Value) → Prop
  | object {fs : List (String × Value)} (nodup : (fs.map Prod.fst).Nodup)
    (known : fs.map Prod.fst ⊆ keys) : Record keys (.object fs) fs
  | array {vs : List Value} (short : vs.length ≤ keys.length) :
    Record keys (.array vs) (keys.zip vs)

/-- A value gives the fields of a record in one way. -/
theorem Value.Record.unique {keys : List String} {v : Value} {fs gs : List (String × Value)}
    (hfs : v.Record keys fs) (hgs : v.Record keys gs) : fs = gs := by
  cases hfs <;> cases hgs <;> rfl

namespace Decoder

/-- The fields of a record fill drafts: `T fs s` says that a draft has been filled with certain
fields.  A field is only read into a draft that does not have it. -/
structure Fill (fields : List (RecordField σ)) (limit : Nat)
    (T : List (String × Value) → σ → Prop) : Prop where
  isSet : ∀ {f fs s}, f ∈ fields → T fs s → (f.isSet s = true ↔ f.name ∈ fs.map Prod.fst)
  sound : ∀ {f fs s d set}, f ∈ fields → T fs s → f.name ∉ fs.map Prod.fst →
    f.read limit d = .ok set → ∃ v, value limit d = .ok v ∧ T (fs ++ [(f.name, v)]) (set s)
  complete : ∀ {f fs s d v}, f ∈ fields → T fs s → fs.lookup f.name = some v →
    value limit d = .ok v → ∃ set, f.read limit d = .ok set

namespace Fill

/-- What is true of all fields is true of all but the first. -/
theorem tail {f : RecordField σ} {fields : List (RecordField σ)}
    {T : List (String × Value) → σ → Prop} (h : Fill (f :: fields) limit T) :
    Fill fields limit T where
  isSet hf := h.isSet (List.mem_cons_of_mem f hf)
  sound hf := h.sound (List.mem_cons_of_mem f hf)
  complete hf := h.complete (List.mem_cons_of_mem f hf)

variable {fields : List (RecordField σ)} {T : List (String × Value) → σ → Prop}
  {fs gs : List (String × Value)} {s t : σ}

/-- A member of a strict record that is read is one of its fields, and the draft does not have it
yet. -/
theorem exists_of_member_eq_ok {m : List Piece × Doc} (h : member fields true limit s m = .ok t) :
    ∃ f ∈ fields, Piece.content m.1 = .ok f.name ∧ f.isSet s = false ∧
      ∃ set, f.read limit m.2 = .ok set ∧ t = set s := by
  obtain ⟨key, hkey, h⟩ := Except.exists_of_bind_eq_ok h
  cases hf : fields.find? fun f => f.name == key with
  | none =>
    simp only [hf, if_true] at h
    cases h
  | some f =>
    simp only [hf] at h
    obtain rfl : f.name = key := by simpa using List.find?_some hf
    split_ifs at h with hset
    obtain ⟨set, hread, h⟩ := Except.exists_of_bind_eq_ok h
    cases h
    exact ⟨f, List.mem_of_find?_eq_some hf, hkey, by simpa using hset, set, hread, rfl⟩

/-- **The members of an object that are read are fields of the record**, none of them twice. -/
theorem foldlM_sound (h : Fill fields limit T) :
    (ms : List (List Piece × Doc)) → {fs : List (String × Value)} → {s : σ} → T fs s →
      (fs.map Prod.fst).Nodup → fs.map Prod.fst ⊆ fields.map RecordField.name →
      ms.foldlM (member fields true limit) s = .ok t →
      ∃ gs, List.Forall₂ (ReadsMember limit) ms gs ∧ T (fs ++ gs) t ∧
        ((fs ++ gs).map Prod.fst).Nodup ∧
        (fs ++ gs).map Prod.fst ⊆ fields.map RecordField.name
  | [], fs, s, hT, hnodup, hknown, hms => by
    cases hms
    exact ⟨[], .nil, by rwa [List.append_nil], by rwa [List.append_nil], by rwa [List.append_nil]⟩
  | m :: ms, fs, s, hT, hnodup, hknown, hms => by
    rw [List.foldlM_cons] at hms
    obtain ⟨u, hm, hms⟩ := Except.exists_of_bind_eq_ok hms
    obtain ⟨f, hf, hkey, hset, set, hread, rfl⟩ := exists_of_member_eq_ok hm
    have hnew : f.name ∉ fs.map Prod.fst := by rw [← h.isSet hf hT, hset]; exact Bool.false_ne_true
    obtain ⟨v, hv, hT⟩ := h.sound hf hT hnew hread
    obtain ⟨gs, hgs, hT, hnodup, hknown⟩ := h.foldlM_sound ms hT
      (by simpa [List.nodup_append'] using ⟨hnodup, by simpa using hnew⟩)
      (by simpa using ⟨hknown, f, hf, rfl⟩) hms
    rw [List.append_assoc, List.singleton_append] at hT hnodup hknown
    exact ⟨(f.name, v) :: gs, .cons ⟨hkey, hv⟩ hgs, hT, hnodup, hknown⟩

/-- The members of an object are read if they are fields of the record and none of them is there
twice. -/
theorem foldlM_complete (h : Fill fields limit T) :
    (ms : List (List Piece × Doc)) → {fs gs : List (String × Value)} → {s : σ} → T fs s →
      List.Forall₂ (ReadsMember limit) ms gs → ((fs ++ gs).map Prod.fst).Nodup →
      (fs ++ gs).map Prod.fst ⊆ fields.map RecordField.name → T (fs ++ gs) t →
      ∃ u, ms.foldlM (member fields true limit) s = .ok u
  | [], _, _, s, _, _, _, _, _ => ⟨s, rfl⟩
  | m :: ms, fs, (key, v) :: gs, s, hT, .cons ⟨hkey, hv⟩ hgs, hnodup, hknown, ht => by
    have hnew : key ∉ fs.map Prod.fst := by
      rw [List.map_append, List.nodup_append'] at hnodup
      exact fun hmem => hnodup.2.2 hmem List.mem_cons_self
    obtain ⟨f, hfind⟩ : ∃ f, fields.find? (fun f => f.name == key) = some f := by
      rw [← Option.isSome_iff_exists, List.find?_isSome]
      simpa using hknown (by simp : key ∈ (fs ++ (key, v) :: gs).map Prod.fst)
    obtain rfl : f.name = key := by simpa using List.find?_some hfind
    have hf := List.mem_of_find?_eq_some hfind
    -- the draft `t` of all members shows that this one can be read
    obtain ⟨set, hread⟩ := h.complete hf ht (List.lookup_append_cons_self hnew) hv
    obtain ⟨w, hw, hT'⟩ := h.sound hf hT hnew hread
    obtain rfl := value_unique hv hw
    rw [← List.singleton_append, ← List.append_assoc] at hnodup hknown ht
    obtain ⟨u, hu⟩ := h.foldlM_complete ms hT' hgs hnodup hknown ht
    have hset : f.isSet s = false := by rw [← Bool.not_eq_true, h.isSet hf hT]; exact hnew
    have hm : member fields true limit s m = .ok (set s) := by
      simp only [member, hkey, bind, Except.bind, hfind, hset, hread]
      rfl
    exact ⟨u, by rw [List.foldlM_cons, hm]; exact hu⟩

/-- **The items of a list that are read are the first fields of the record**, in order. -/
theorem positional_sound {shortage : Nat → Fault} {stop : Doc.Stop} :
    {fields : List (RecordField σ)} → Fill fields limit T → (fields.map RecordField.name).Nodup →
      {done : Nat} → (ds : List Doc) → {fs : List (String × Value)} → {s : σ} → T fs s →
      (∀ f ∈ fields, f.name ∉ fs.map Prod.fst) →
      positional shortage limit done fields ds stop s = .ok t →
      ∃ vs, List.Forall₂ (fun d v => value limit d = .ok v) ds vs ∧ stop = .closed ∧
        vs.length ≤ fields.length ∧ T (fs ++ (fields.map RecordField.name).zip vs) t
  | [], _, _, _, [], fs, s, hT, _, hds => by
    obtain ⟨_, hstop, hds⟩ := Except.exists_of_bind_eq_ok hds
    cases hds
    exact ⟨[], .nil, check_eq_ok_iff.mp hstop, Nat.le_refl 0, by simpa using hT⟩
  | [], _, _, _, _ :: _, _, _, _, _, hds => by cases hds
  | f :: fields, h, hnames, _, d :: ds, fs, s, hT, hnew, hds => by
    obtain ⟨set, hread, hds⟩ := Except.exists_of_bind_eq_ok hds
    rw [List.map_cons, List.nodup_cons] at hnames
    obtain ⟨hf, hnew⟩ := List.forall_mem_cons.mp hnew
    obtain ⟨v, hv, hT⟩ := h.sound List.mem_cons_self hT hf hread
    obtain ⟨vs, hvs, hstop, hlength, ht⟩ := h.tail.positional_sound hnames.2 ds hT
      (fun g hg => by
        have hne : g.name ≠ f.name := fun heq => hnames.1 (heq ▸ List.mem_map_of_mem hg)
        simpa [hne] using hnew g hg) hds
    rw [List.append_assoc, List.singleton_append] at ht
    exact ⟨v :: vs, .cons hv hvs, hstop, Nat.succ_le_succ hlength, ht⟩
  | f :: fields, h, hnames, _, [], fs, s, hT, hnew, hds => by
    obtain ⟨_, hstop, hds⟩ := Except.exists_of_bind_eq_ok hds
    split_ifs at hds
    obtain ⟨vs, hvs, -, -, ht⟩ := h.tail.positional_sound (List.nodup_cons.mp hnames).2 [] hT
      (List.forall_mem_cons.mp hnew).2 hds
    cases hvs
    exact ⟨[], .nil, check_eq_ok_iff.mp hstop, Nat.zero_le _, by simpa using ht⟩

/-- The items of a list are read as the first fields of a record if no other field has to be
there. -/
theorem positional_complete {shortage : Nat → Fault} :
    {fields : List (RecordField σ)} → Fill fields limit T → (fields.map RecordField.name).Nodup →
      {done : Nat} → (ds : List Doc) → {fs : List (String × Value)} → {vs : List Value} → {s : σ} →
      T fs s → (∀ f ∈ fields, f.name ∉ fs.map Prod.fst) →
      List.Forall₂ (fun d v => value limit d = .ok v) ds vs → vs.length ≤ fields.length →
      T (fs ++ (fields.map RecordField.name).zip vs) t →
      (∀ f ∈ fields, f.absence ≠ .anywhere →
        f.name ∈ ((fields.map RecordField.name).zip vs).map Prod.fst) →
      ∃ u, positional shortage limit done fields ds .closed s = .ok u
  | [], _, _, _, [], _, _, s, _, _, _, _, _, _ => ⟨s, rfl⟩
  | [], _, _, _, _ :: _, _, _ :: _, _, _, _, _, hlength, _, _ => by cases hlength
  | f :: fields, h, hnames, _, d :: ds, fs, v :: vs, s, hT, hnew, .cons hv hvs, hlength, ht,
      hneeded => by
    rw [List.map_cons, List.nodup_cons] at hnames
    rw [List.map_cons, List.zip_cons_cons] at ht hneeded
    obtain ⟨hf, hnew⟩ := List.forall_mem_cons.mp hnew
    have hne {g : RecordField σ} (hg : g ∈ fields) : g.name ≠ f.name :=
      fun heq => hnames.1 (heq ▸ List.mem_map_of_mem hg)
    obtain ⟨set, hread⟩ := h.complete List.mem_cons_self ht (List.lookup_append_cons_self hf) hv
    obtain ⟨w, hw, hT'⟩ := h.sound List.mem_cons_self hT hf hread
    obtain rfl := value_unique hv hw
    rw [← List.singleton_append, ← List.append_assoc] at ht
    obtain ⟨u, hu⟩ := h.tail.positional_complete hnames.2 ds hT'
      (fun g hg => by simpa [hne hg] using hnew g hg) hvs (Nat.le_of_succ_le_succ hlength) ht
      (fun g hg hg' => by
        simpa [hne hg] using hneeded g (List.mem_cons_of_mem f hg) hg')
    exact ⟨u, by rw [positional, hread]; exact hu⟩
  | f :: fields, h, hnames, _, [], fs, [], s, hT, hnew, .nil, _, ht, hneeded => by
    obtain ⟨hf, hneeded⟩ := List.forall_mem_cons.mp hneeded
    have habsent : f.absence = .anywhere := by
      by_contra hne
      cases hf hne
    obtain ⟨u, hu⟩ := h.tail.positional_complete (List.nodup_cons.mp hnames).2 [] hT
      (List.forall_mem_cons.mp hnew).2 .nil (Nat.zero_le _) (by simpa using ht)
      (fun g hg hg' => by simpa using hneeded g hg hg')
    exact ⟨u, by rw [positional, habsent, if_pos rfl]; exact hu⟩

variable {what : String} {start : σ} {d : Doc}

/-- **A strict record that is read has its fields and no others**, and they are in the draft. -/
theorem record_sound (h : Fill fields limit T) (hnames : (fields.map RecordField.name).Nodup)
    (hstart : T [] start) (hd : record what fields true start (limit + 1) d = .ok t) :
    ∃ v fs, value (limit + 1) d = .ok v ∧ v.Record (fields.map RecordField.name) fs ∧ T fs t := by
  cases d with
  | object ms stop =>
    obtain ⟨u, hms, hd⟩ := Except.exists_of_bind_eq_ok hd
    obtain ⟨_, hstop, hd⟩ := Except.exists_of_bind_eq_ok hd
    cases hd
    obtain ⟨fs, hfs, ht, hnodup, hknown⟩ :=
      h.foldlM_sound ms hstart List.nodup_nil (List.nil_subset _) hms
    rw [check_eq_ok_iff.mp hstop]
    exact ⟨.object fs, fs, value_eq_ok_iff_origin.mpr (.object hfs), .object hnodup hknown, ht⟩
  | array ds stop =>
    obtain ⟨vs, hvs, rfl, hlength, ht⟩ := h.positional_sound hnames ds hstart (by simp) hd
    exact ⟨.array vs, _, value_eq_ok_iff_origin.mpr (.array hvs),
      .array (by simpa using hlength), ht⟩
  | _ => cases hd

/-- **A strict record is read if a value gives its fields**, those among them that may not be left
out, and then they are in the draft. -/
theorem record_complete (h : Fill fields limit T) (hnames : (fields.map RecordField.name).Nodup)
    (hstart : T [] start) {v : Value} {fs : List (String × Value)}
    (hv : value (limit + 1) d = .ok v) (hfs : v.Record (fields.map RecordField.name) fs)
    (ht : T fs t) (hneeded : ∀ f ∈ fields, f.absence ≠ .anywhere → f.name ∈ fs.map Prod.fst) :
    ∃ u, record what fields true start (limit + 1) d = .ok u ∧ T fs u := by
  have hread : ∃ u, record what fields true start (limit + 1) d = .ok u := by
    cases hfs with
    | object hnodup hknown =>
      cases value_eq_ok_iff_origin.mp hv with
      | object hms =>
        obtain ⟨u, hu⟩ := h.foldlM_complete _ hstart hms hnodup hknown ht
        exact ⟨u, by rw [record, hu]; rfl⟩
    | array hlength =>
      cases value_eq_ok_iff_origin.mp hv with
      | array hds =>
        exact h.positional_complete hnames _ hstart (by simp) hds (by simpa using hlength) ht
          hneeded
  -- `u` need not be `t`, but the fields in it are those of the same value
  obtain ⟨u, hu⟩ := hread
  obtain ⟨w, gs, hw, hgs, hT⟩ := h.record_sound hnames hstart hu
  obtain rfl := value_unique hv hw
  obtain rfl := hfs.unique hgs
  exact ⟨u, hu, hT⟩

end Fill

end Decoder

/-! ### Fields with shapes -/

/-- A field of a record: how it is read, its place in the draft, and the shape of its values. -/
structure ShapedField (σ : Type) where
  {α : Type}
  name : String
  get : σ → Option α
  set : α → σ → σ
  decoder : Decoder α
  absence : RecordField.Absence := .never
  shape : Value → α → Prop

namespace ShapedField

variable {σ : Type} {limit : Nat} {fs : List (String × Value)} {s : σ}

/-- The field of the record. -/
def field (c : ShapedField σ) : RecordField σ := .of c.name c.get c.set c.decoder c.absence

/-- A draft has a field exactly if it is one of those that were read, and has it as its shape
says. -/
def Shows (c : ShapedField σ) (fs : List (String × Value)) (s : σ) : Prop :=
  Option.Rel c.shape (fs.lookup c.name) (c.get s)

/-- Fields have places of their own in the draft. -/
structure Apart (cs : List (ShapedField σ)) : Prop where
  names : (cs.map name).Nodup
  get_set : ∀ c ∈ cs, ∀ a s, c.get (c.set a s) = some a
  get_set_of_ne : ∀ c ∈ cs, ∀ c' ∈ cs, c'.name ≠ c.name → ∀ a s, c'.get (c.set a s) = c'.get s

@[simp] theorem name_field (c : ShapedField σ) : c.field.name = c.name := rfl

theorem Shows.isSome_iff {c : ShapedField σ} (h : c.Shows fs s) :
    (c.get s).isSome = true ↔ c.name ∈ fs.map Prod.fst := by
  rw [← h.isSome_eq, List.isSome_lookup_iff]

/-- **Fields with places of their own fill the drafts of their record.** -/
theorem Apart.fill {cs : List (ShapedField σ)} (h : Apart cs)
    (hreads : ∀ c ∈ cs, Decoder.Reads limit c.decoder c.shape) :
    Decoder.Fill (cs.map field) limit fun fs s => ∀ c ∈ cs, c.Shows fs s where
  isSet {f fs s} hf hs := by
    obtain ⟨c, hc, rfl⟩ := List.mem_map.mp hf
    exact (hs c hc).isSome_iff
  sound {f fs s d g} hf hs hnew hread := by
    obtain ⟨c, hc, rfl⟩ := List.mem_map.mp hf
    rw [name_field] at hnew
    obtain ⟨a, ha, rfl⟩ := RecordField.exists_of_read_eq_ok hread
    obtain ⟨v, hv, hshape⟩ := (hreads c hc).sound ha
    refine ⟨v, hv, fun c' hc' => ?_⟩
    by_cases hname : c'.name = c.name
    · obtain rfl := List.inj_on_of_nodup_map h.names hc' hc hname
      rw [Shows, h.get_set c' hc, name_field, List.lookup_append_cons_self hnew]
      exact .some hshape
    · have hlookup : (fs ++ [(c.name, v)]).lookup c'.name = fs.lookup c'.name := by
        simp [List.lookup_append, List.lookup_cons, beq_eq_false_iff_ne.mpr hname]
      rw [Shows, h.get_set_of_ne c hc c' hc' hname, name_field, hlookup]
      exact hs c' hc'
  complete {f fs s d v} hf hs hlookup hv := by
    obtain ⟨c, hc, rfl⟩ := List.mem_map.mp hf
    have hshows := hs c hc
    rw [Shows, show fs.lookup c.name = some v from hlookup] at hshows
    generalize c.get s = o at hshows
    obtain ⟨hshape⟩ := hshows
    obtain ⟨b, hb⟩ := (hreads c hc).complete hv hshape
    exact ⟨c.set b, congrArg (Except.map c.set) hb⟩

/-- **A strict record is accepted as its fields say.**  Its draft is finished to what they say, and
whenever they say something, there is a draft of them, the fields that may not be left out are
there, and every draft of them can be finished. -/
theorem Apart.reads_record {α : Type} {cs : List (ShapedField σ)} (h : Apart cs) {what : String}
    {start : σ} (finish : σ → Except Fault α) {Gives : List (String × Value) → α → Prop}
    (hreads : ∀ n, limit = n + 1 → ∀ c ∈ cs, Decoder.Reads n c.decoder c.shape)
    (hstart : ∀ c ∈ cs, c.Shows [] start)
    (hsound : ∀ {fs s a}, (∀ c ∈ cs, c.Shows fs s) → finish s = .ok a → Gives fs a)
    (hdraft : ∀ {fs a}, Gives fs a → ∃ s, ∀ c ∈ cs, c.Shows fs s)
    (hneeded : ∀ {fs a}, Gives fs a → ∀ c ∈ cs, c.absence ≠ .anywhere → c.name ∈ fs.map Prod.fst)
    (hfinish : ∀ {fs a s}, Gives fs a → (∀ c ∈ cs, c.Shows fs s) → ∃ b, finish s = .ok b) :
    Decoder.Reads limit
      (fun limit d => Decoder.record what (cs.map field) true start limit d >>= finish)
      fun v a => ∃ fs, v.Record (cs.map name) fs ∧ Gives fs a := by
  have hnames : (cs.map field).map RecordField.name = cs.map name := by
    rw [List.map_map]
    rfl
  cases limit with
  | zero =>
    constructor
    · intro d a hd
      cases d <;> cases hd
    · rintro d v a hv ⟨fs, hrecord, -⟩
      cases hrecord <;> cases Decoder.value_eq_ok_iff_origin.mp hv
  | succ limit =>
    have hfill := h.fill (hreads limit rfl)
    have hnodup : ((cs.map field).map RecordField.name).Nodup := hnames ▸ h.names
    rw [← hnames]
    constructor
    · intro d a hd
      obtain ⟨s, hs, ha⟩ := Except.exists_of_bind_eq_ok hd
      obtain ⟨v, fs, hv, hrecord, hshows⟩ := hfill.record_sound hnodup hstart hs
      exact ⟨v, hv, fs, hrecord, hsound hshows ha⟩
    · rintro d v a hv ⟨fs, hrecord, hgives⟩
      obtain ⟨s, hs⟩ := hdraft hgives
      have hneeded' : ∀ f ∈ cs.map field, f.absence ≠ .anywhere → f.name ∈ fs.map Prod.fst := by
        intro f hf
        obtain ⟨c, hc, rfl⟩ := List.mem_map.mp hf
        exact hneeded hgives c hc
      obtain ⟨t, ht, hshows⟩ := hfill.record_complete hnodup hstart hv hrecord hs hneeded'
      obtain ⟨b, hb⟩ := hfinish hgives hshows
      exact ⟨b, by rw [ht]; exact hb⟩

end ShapedField

/-! ### What fields say -/

section Options

variable {α : Type} {R : Value → α → Prop} {o : Option Value} {vs : List Value} {as : List α}
  {text : Option String}

/-- What was read of a field is the value of the field. -/
theorem eq_some_of_rel {f : α → Value} {a : α} (h : Option.Rel (fun v a => v = f a) o (some a)) :
    o = some (f a) := by
  cases h with
  | some h => exact congrArg some h

/-- A text that was read, or was absent, or was `null`. -/
theorem getD_null_of_rel {o' : Option (Option String)}
    (h : Option.Rel (fun v t => v = .textOrNull t) o o') : o.getD .null = .textOrNull o'.join := by
  cases h with
  | none => rfl
  | some h => exact h

theorem rel_of_getD_null (h : o.getD .null = .textOrNull text) :
    Option.Rel (fun v t => v = .textOrNull t) o (o.map fun _ => text) := by
  cases o with
  | none => exact .none
  | some v => exact .some h

/-- A list that was read, or was absent and counts as empty. -/
theorem exists_getD_array_of_rel {o' : Option (List α)} (h : Option.Rel (Value.ListOf R) o o') :
    ∃ vs, o.getD (.array []) = .array vs ∧ List.Forall₂ R vs (o'.getD []) := by
  cases h with
  | none => exact ⟨[], rfl, .nil⟩
  | some h => exact h

theorem rel_of_getD_array (h : o.getD (.array []) = .array vs) (hR : List.Forall₂ R vs as) :
    Option.Rel (Value.ListOf R) o (o.map fun _ => as) := by
  cases o with
  | none => exact .none
  | some v => exact .some ⟨vs, h, hR⟩

end Options

end ScreenPages.Json
