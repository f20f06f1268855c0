import ScreenPages.Device
import ScreenPages.Proofs.Rereading

/-!
# Dumps survive rewriting

The dump of a tree may leave out what is empty, spell kinds that nobody knows, and name its
fields in any order.  What is written of the tree has none of these liberties, and is read as the
same tree.  There is one exception.  Reading stops where more than 127 lists and objects are open,
and a tree takes two for each of its levels: one for the node and one for the list of its children.
The dump of a tree with 64 levels can be read only if it leaves out the children of the lowest
nodes, but the empty lists of these children are always written.

## Main definitions

* `Node.height` — the number of levels of a tree.
* `Node.coordinates` — the numbers of its frames.

## Main results

* `Node.two_mul_height_le_of_decoder` — how high a tree can be that is read.
* `Node.decoder_doc` — **a tree is read from what is written of it**, unless it is too high.
* `Node.ofDump_compact_of_ofDump` — what is written of an accepted dump is read again as the same
  tree, if the tree has at most 63 levels.
* `Node.not_forall_ofDump_compact` — not so for some trees of 64 levels.
-/

namespace ScreenPages

open Json
open Value (memberDocs docs numbers numbersOfItems numbersOfFields numbersOfFields_append)

/-- A kind is read from its document. -/
theorem Kind.decoder_doc (k : Kind) (limit : Nat) : Kind.decoder limit k.json.doc = .ok k := by
  rw [decoder, json, Decoder.text_doc, Except.map, ofDumpName_name]

namespace Frame

/-- The numbers of a frame in the order in which they are written. -/
def coordinates (f : Frame) : List Float := [f.x, f.y, f.width, f.height]

/-- **A frame is read from its document**, if one more object may be opened. -/
theorem decoder_doc {f : Frame} (h : ∀ x ∈ f.coordinates, Number.Exact x) (limit : Nat) :
    decoder (limit + 1) f.json.doc = .ok f := by
  simp only [coordinates, List.forall_mem_cons] at h
  obtain ⟨hx, hy, hwidth, hheight, -⟩ := h
  have hrecord : Decoder.record "struct ElementFrame" fields false {} (limit + 1) f.json.doc
      = .ok ⟨f.x, f.y, f.width, f.height⟩ := by
    rw [json, Decoder.record_object,
      Decoder.foldlM_member_cons rfl rfl (hx.real_doc limit),
      Decoder.foldlM_member_cons rfl rfl (hy.real_doc limit),
      Decoder.foldlM_member_cons rfl rfl (hwidth.real_doc limit),
      Decoder.foldlM_member_cons rfl rfl (hheight.real_doc limit)]
    rfl
  rw [decoder, hrecord]
  rfl

/-- A frame is an object. -/
theorem decoder_doc_zero (f : Frame) : decoder 0 f.json.doc = .error .nestingLimit := rfl

end Frame

namespace Node

/-! ### The size of a tree -/

mutual

/-- The number of levels of a tree. -/
def height : Node → Nat
  | ⟨_, _, _, children⟩ => 1 + heightList children

/-- The number of levels of several trees. -/
def heightList : List Node → Nat
  | [] => 0
  | n :: ns => max (height n) (heightList ns)

end

mutual

/-- The numbers of all frames in a tree. -/
def coordinates : Node → List Float
  | ⟨_, frame, _, children⟩ => frame.toList.flatMap Frame.coordinates ++ coordinatesList children

/-- The numbers of all frames in several trees. -/
def coordinatesList : List Node → List Float
  | [] => []
  | n :: ns => coordinates n ++ coordinatesList ns

end

/-! ### How high a tree can be -/

/-- A node is one level higher than its children. -/
theorem height_le_of_decoderWith {child : Decoder Node} {limit : Nat} (bound : Nat) {d : Doc}
    {n : Node} (hlist : ∀ d ns, Decoder.list child limit d = .ok ns → heightList ns ≤ bound)
    (h : decoderWith child (limit + 1) d = .ok n) : n.height ≤ 1 + bound := by
  obtain ⟨s, hs, h⟩ := Except.exists_of_bind_eq_ok h
  have hpreserve : Decoder.Preserve (fields child) limit
      fun s => ∀ ns, s.children = some ns → heightList ns ≤ bound := by
    intro f hf d set s hset hs
    simp only [fields, List.mem_cons, List.not_mem_nil, or_false] at hf
    rcases hf with rfl | rfl | rfl | rfl | rfl | rfl | rfl <;>
      obtain ⟨a, ha, rfl⟩ := RecordField.exists_of_read_eq_ok hset
    case inr.inr.inr.inr.inr.inr =>
      intro ns hns
      cases hns
      exact hlist d a ha
    all_goals exact hs
  have hchildren := hpreserve.record hs nofun
  obtain ⟨kind, -, h⟩ := Except.exists_of_bind_eq_ok h
  cases h
  rw [height]
  cases hns : s.children with
  | none => rw [Option.getD_none, heightList]; omega
  | some ns => exact Nat.add_le_add_left (hchildren ns hns) 1

theorem heightList_le {bound : Nat} : {ns : List Node} → (∀ n ∈ ns, n.height ≤ bound) →
    heightList ns ≤ bound
  | [], _ => Nat.zero_le _
  | n :: ns, h => by
    rw [List.forall_mem_cons] at h
    rw [heightList]
    exact Nat.max_le.mpr ⟨h.1, heightList_le h.2⟩

/-- **A tree that is read has at most half as many levels as may be open.** -/
theorem two_mul_height_le_of_decoder : (limit : Nat) → {d : Doc} → {n : Node} →
    decoder limit d = .ok n → 2 * n.height ≤ limit + 1
  | 0, d, n, h => by
    obtain ⟨s, hs, -⟩ := Except.exists_of_bind_eq_ok h
    cases d <;> cases hs
  | 1, d, n, h => by
    have hn := height_le_of_decoderWith 0 (fun d ns hns => by cases d <;> cases hns) h
    omega
  | limit + 2, d, n, h => by
    have hlist (d : Doc) (ns : List Node)
        (hns : Decoder.list (fun _ => decoder limit) (limit + 1) d = .ok ns) :
        heightList ns ≤ (limit + 1) / 2 := by
      cases d with
      | array items stop =>
        obtain ⟨ms, hms, hns⟩ := Except.exists_of_bind_eq_ok hns
        obtain ⟨-, -, hns⟩ := Except.exists_of_bind_eq_ok hns
        cases hns
        refine heightList_le fun m hm => ?_
        obtain ⟨e, -, he⟩ := (Except.forall₂_of_mapM_eq_ok hms).exists_of_mem_right m hm
        have := two_mul_height_le_of_decoder limit he
        omega
      | _ => cases hns
    have hn := height_le_of_decoderWith _ hlist h
    omega

/-! ### Reading what is written -/

section Members

variable {child : Decoder Node} {limit : Nat} {rest : List (String × Value)}

/-- The members of a node that tell its step are read one after another. -/
theorem foldlM_member_step (step : Step) :
    (memberDocs (("type", step.kind.json) :: ("AXUniqueId", .text step.identifier) ::
        ("AXLabel", .text step.label) ::
        ((step.value.map fun v => ("AXValue", Value.text v)).toList ++ rest))).foldlM
        (Decoder.member (fields child) false limit) {}
      = (memberDocs rest).foldlM (Decoder.member (fields child) false limit)
        { kind := some step.kind, identifier := some step.identifier, label := some step.label,
          value := step.value.map some } := by
  have htext (s : String) : textOrNull limit (Value.text s).doc = .ok s := by
    rw [textOrNull, Decoder.optional_text_doc]
    rfl
  rw [Decoder.foldlM_member_cons rfl rfl (step.kind.decoder_doc limit),
    Decoder.foldlM_member_cons rfl rfl (htext _), Decoder.foldlM_member_cons rfl rfl (htext _)]
  exact Decoder.foldlM_member_toList_append rfl rfl
    (fun v _ => Decoder.optional_text_doc limit v) (by cases step.value <;> rfl)

theorem foldlM_member_frame {frame : Option Frame} {s : Draft} (hs : s.frame = none)
    (h : ∀ f, frame = some f → ∀ x ∈ f.coordinates, Number.Exact x) :
    (memberDocs ((frame.map fun f => ("frame", f.json)).toList ++ rest)).foldlM
        (Decoder.member (fields child) false (limit + 1)) s
      = (memberDocs rest).foldlM (Decoder.member (fields child) false (limit + 1))
        { s with frame := frame.map some } :=
  Decoder.foldlM_member_toList_append rfl hs
    (fun f hf => congrArg (Except.map some) (Frame.decoder_doc (h f hf) limit))
    (by obtain ⟨⟩ := s; cases hs; cases frame <;> rfl)

theorem foldlM_member_hittable {hittable : Option Bool} {s : Draft} (hs : s.hittable = none) :
    (memberDocs ((hittable.map fun b => ("hittable", Value.flag b)).toList ++ rest)).foldlM
        (Decoder.member (fields child) false limit) s
      = (memberDocs rest).foldlM (Decoder.member (fields child) false limit)
        { s with hittable := hittable.map some } :=
  Decoder.foldlM_member_toList_append rfl hs (fun _ _ => rfl)
    (by obtain ⟨⟩ := s; cases hs; cases hittable <;> rfl)

end Members

variable {child : Decoder Node} {limit : Nat} {step : Step} {frame : Option Frame}
  {hittable : Option Bool} {children : List Node}

/-- The draft with all that is written of a node is complete. -/
theorem ofDraft_complete :
    ofDraft { kind := some step.kind, identifier := some step.identifier,
              label := some step.label, value := step.value.map some,
              frame := frame.map some, hittable := hittable.map some,
              children := some children }
      = .ok ⟨step, frame, hittable, children⟩ := by
  obtain ⟨kind, identifier, label, value⟩ := step
  cases value <;> cases frame <;> cases hittable <;> rfl

/-- A node is read from its document as its children are. -/
theorem decoderWith_doc (hframe : ∀ f, frame = some f → ∀ x ∈ f.coordinates, Number.Exact x) :
    decoderWith child (limit + 2) (json ⟨step, frame, hittable, children⟩).doc
      = ((docs (jsonList children)).mapM (child limit)).map
        fun ns => ⟨step, frame, hittable, ns⟩ := by
  rw [decoderWith, json, Decoder.record_object]
  simp only [List.append_assoc, List.cons_append, List.nil_append]
  rw [foldlM_member_step, foldlM_member_frame rfl hframe, foldlM_member_hittable rfl]
  have hlist := Decoder.list_doc child limit (jsonList children)
  cases hchildren : (docs (jsonList children)).mapM (child limit) with
  | error fault =>
    rw [hchildren] at hlist
    rw [Decoder.foldlM_member_cons_error rfl rfl hlist]
    rfl
  | ok ns =>
    rw [hchildren] at hlist
    rw [Decoder.foldlM_member_cons rfl rfl hlist]
    exact ofDraft_complete

/-- A node has two levels of nesting of its own. -/
theorem decoderWith_doc_one :
    decoderWith child 1 (json ⟨step, frame, hittable, children⟩).doc = .error .nestingLimit := by
  rw [decoderWith, json, Decoder.record_object]
  simp only [List.append_assoc, List.cons_append, List.nil_append]
  rw [foldlM_member_step]
  cases frame with
  | some f =>
    rw [Option.map_some, Option.toList_some, List.cons_append,
      Decoder.foldlM_member_cons_error rfl rfl (congrArg (Except.map some) f.decoder_doc_zero)]
    rfl
  | none =>
    rw [Option.map_none, Option.toList_none, List.nil_append, foldlM_member_hittable rfl,
      Decoder.foldlM_member_cons_error rfl rfl (Decoder.list_doc_zero child _)]
    rfl

mutual

/-- **A tree is read from its document if it is not too high.**  A level of the tree takes two
levels of nesting, so the induction over the tree goes with steps of two in the limit. -/
theorem decoder_doc : (n : Node) → (∀ x ∈ n.coordinates, Number.Exact x) → (limit : Nat) →
    decoder limit n.json.doc
      = if 2 * n.height ≤ limit then .ok n else .error .nestingLimit
  | ⟨step, frame, hittable, children⟩, _, 0 => by
    rw [if_neg (by rw [height]; omega)]
    rfl
  | ⟨step, frame, hittable, children⟩, _, 1 => by
    rw [if_neg (by rw [height]; omega)]
    exact decoderWith_doc_one
  | ⟨step, frame, hittable, children⟩, h, limit + 2 => by
    rw [coordinates, List.forall_mem_append] at h
    have hframe (f : Frame) (hf : frame = some f) : ∀ x ∈ f.coordinates, Number.Exact x :=
      fun x hx => h.1 x (List.mem_flatMap.mpr ⟨f, by simp [hf], hx⟩)
    rw [decoder, decoderWith_doc hframe, mapM_decoder_docs children h.2 limit, height]
    by_cases hheight : 2 * heightList children ≤ limit
    · rw [if_pos hheight, if_pos (by omega)]
      rfl
    · rw [if_neg hheight, if_neg (by omega)]
      rfl

/-- The children of a node are read if none of them is too high. -/
theorem mapM_decoder_docs : (ns : List Node) → (∀ x ∈ coordinatesList ns, Number.Exact x) →
    (limit : Nat) → (docs (jsonList ns)).mapM (decoder limit)
      = if 2 * heightList ns ≤ limit then .ok ns else .error .nestingLimit
  | [], _, limit => by
    rw [if_pos (by rw [heightList]; omega)]
    rfl
  | n :: ns, h, limit => by
    rw [coordinatesList, List.forall_mem_append] at h
    rw [jsonList, docs, List.mapM_cons, decoder_doc n h.1 limit, mapM_decoder_docs ns h.2 limit,
      heightList]
    by_cases hn : 2 * n.height ≤ limit
    · rw [if_pos hn]
      by_cases hns : 2 * heightList ns ≤ limit
      · rw [if_pos hns, if_pos (by omega)]
        rfl
      · rw [if_neg hns, if_neg (by omega)]
        rfl
    · rw [if_neg hn, if_neg (show ¬2 * max n.height (heightList ns) ≤ limit by omega)]
      rfl

end

mutual

/-- The numbers in the JSON of a tree are those of its frames. -/
theorem numbers_json : (n : Node) → n.json.numbers = n.coordinates.map .real
  | ⟨step, frame, hittable, children⟩ => by
    have hvalue : numbersOfFields (step.value.map fun v => ("AXValue", Value.text v)).toList
        = [] := by
      cases step.value <;> rfl
    have hframe : numbersOfFields (frame.map fun f => ("frame", f.json)).toList
        = (frame.toList.flatMap Frame.coordinates).map .real := by
      cases frame <;> rfl
    have hhittable : numbersOfFields (hittable.map fun b => ("hittable", Value.flag b)).toList
        = [] := by
      cases hittable <;> rfl
    rw [json, numbers, numbersOfFields_append, numbersOfFields_append, numbersOfFields_append,
      numbersOfFields_append, hvalue, hframe, hhittable, coordinates, List.map_append]
    simp only [numbersOfFields, Kind.json, numbers, numbers_jsonList children, List.append_nil,
      List.nil_append]

theorem numbers_jsonList : (ns : List Node) →
    numbersOfItems (jsonList ns) = (coordinatesList ns).map .real
  | [] => rfl
  | n :: ns => by
    rw [jsonList, numbersOfItems, numbers_json n, numbers_jsonList ns, coordinatesList,
      List.map_append]

end

/-- The JSON of a tree is legible if the numbers of its frames are. -/
theorem legible_json {n : Node} (h : ∀ x ∈ n.coordinates, Number.Exact x) : n.json.Legible := by
  intro m hm
  rw [numbers_json] at hm
  obtain ⟨x, hx, rfl⟩ := List.mem_map.mp hm
  exact (h x hx).legible

/-- **Reading the dump of a tree gives the tree, if it is not too high.** -/
theorem ofDump_compact {n : Node} (h : ∀ x ∈ n.coordinates, Number.Exact x) :
    ofDump n.json.compact = if n.height ≤ 63 then .ok n
      else .error (.badDump Json.Fault.nestingLimit.message) := by
  rw [ofDump, Decoder.run_compact _ (legible_json h), decoder_doc n h, nestingLimit]
  by_cases hn : n.height ≤ 63
  · rw [if_pos hn, if_pos (by omega)]
    rfl
  · rw [if_neg hn, if_neg (by omega)]
    rfl

/-- A dump is read to a tree of at most 64 levels. -/
theorem height_le_of_ofDump {s : String} {n : Node} (h : ofDump s = .ok n) : n.height ≤ 64 := by
  obtain ⟨d, hd⟩ := Decoder.exists_of_run_eq_ok (Except.eq_ok_of_mapError_eq_ok h)
  have := two_mul_height_le_of_decoder nestingLimit hd
  rw [nestingLimit] at this
  omega

/-- **Dumps survive rewriting.**  A tree that is read from a dump has at most 64 levels.  If the
numbers of its frames are read back unchanged, then what is written of a tree with at most 63
levels is read as the same tree, and what is written of one with 64 levels is refused, because
the empty list of children of its lowest nodes is written too. -/
theorem ofDump_compact_of_ofDump {s : String} {n : Node} (h : ofDump s = .ok n)
    (hexact : ∀ x ∈ n.coordinates, Number.Exact x) :
    n.height ≤ 64 ∧ (n.height ≤ 63 → ofDump n.json.compact = .ok n) ∧
      (n.height = 64 →
        ofDump n.json.compact = .error (.badDump "recursion limit exceeded")) ∧
      ∀ m, ofDump n.json.compact = .ok m → m.json.compact = n.json.compact := by
  have hread := ofDump_compact hexact
  refine ⟨height_le_of_ofDump h, fun hn => ?_, fun hn => ?_, fun m hm => ?_⟩
  · rw [hread, if_pos hn]
  · rw [hread, if_neg (by omega)]
    rfl
  · rw [hread] at hm
    split_ifs at hm
    cases hm
    rfl

/-- A dump with an unknown kind, an identifier that is `null`, a frame and a child. -/
def sparkleDump : String :=
  "\x7b\"type\":\"Sparkle\",\"AXUniqueId\":null,\"frame\":" ++
    "\x7b\"x\":10.5,\"y\":0,\"width\":320,\"height\":44\x7d," ++
    "\"children\":[\x7b\"type\":\"Button\"\x7d]\x7d"

theorem ofDump_compact_of_ofDump_sparkleDump :
    ∃ n, ofDump sparkleDump = .ok n ∧ n.coordinates = [10.5, 0, 320, 44] ∧
      (∀ x ∈ n.coordinates, Number.Exact x) ∧ n.height = 2 ∧ ofDump n.json.compact = .ok n := by
  have hread : (ofDump sparkleDump).toOption.map (fun n => (n.coordinates, n.height))
      = some ([10.5, 0, 320, 44], 2) := by
    decide +kernel
  cases hn : ofDump sparkleDump with
  | error fault => rw [hn] at hread; cases hread
  | ok n =>
    rw [hn] at hread
    obtain ⟨hcoordinates, hheight⟩ := Prod.mk.inj (Option.some.inj hread)
    have hexact : ∀ x ∈ n.coordinates, Number.Exact x := by
      rw [hcoordinates]
      decide +kernel
    exact ⟨n, rfl, hcoordinates, hexact, hheight,
      (ofDump_compact_of_ofDump hn hexact).2.1 (by omega)⟩

/-! ### A dump at the limit -/

/-- Nodes one below the other, so many of them above the lowest. -/
def chain : Nat → Node
  | 0 => { step := { kind := .other } }
  | n + 1 => { step := { kind := .other }, children := [chain n] }

/-- The least that has to be written of a chain. -/
def chainJson : Nat → Value
  | 0 => .object [("type", Kind.other.json)]
  | n + 1 => .object [("type", Kind.other.json), ("children", .array [chainJson n])]

theorem height_chain (n : Nat) : (chain n).height = n + 1 := by
  induction n with
  | zero => rfl
  | succ n ih => rw [chain, height, heightList, heightList, ih, Nat.max_zero, Nat.add_comm]

theorem coordinates_chain (n : Nat) : (chain n).coordinates = [] := by
  induction n with
  | zero => rfl
  | succ n ih => rw [chain, coordinates, coordinatesList, coordinatesList, ih]; rfl

theorem numbers_chainJson (n : Nat) : (chainJson n).numbers = [] := by
  induction n with
  | zero => rfl
  | succ n ih =>
    simp only [chainJson, numbers, numbersOfFields, numbersOfItems, ih, Kind.json, List.append_nil]

/-- A chain is read from its short form, for which one level less has to be open than for what
is written of it. -/
theorem decoder_chainJson (n : Nat) : decoder (2 * n + 1) (chainJson n).doc = .ok (chain n) := by
  induction n with
  | zero =>
    rw [decoder, decoderWith, chainJson, Decoder.record_object,
      Decoder.foldlM_member_cons rfl rfl (Kind.other.decoder_doc 0)]
    · rfl
    · exact nofun
  | succ n ih =>
    have hlist : Decoder.list (fun _ => decoder (2 * n + 1)) (2 * n + 2)
        (Value.array [chainJson n]).doc = .ok [chain n] := by
      rw [Decoder.list_doc, docs, docs, List.mapM_cons, ih]
      rfl
    rw [show 2 * (n + 1) + 1 = 2 * n + 1 + 2 by omega, decoder, decoderWith, chainJson,
      Decoder.record_object, Decoder.foldlM_member_cons rfl rfl (Kind.other.decoder_doc _),
      Decoder.foldlM_member_cons rfl rfl hlist]
    rfl

theorem ofDump_chainJson : ofDump (chainJson 63).compact = .ok (chain 63) := by
  have hlegible : (chainJson 63).Legible := by
    intro n hn
    rw [numbers_chainJson] at hn
    cases hn
  rw [ofDump, Decoder.run_compact _ hlegible, show nestingLimit = 2 * 63 + 1 from rfl,
    decoder_chainJson]
  rfl

/-- A dump with 64 levels that leaves out the children of the lowest node is read, but what is
written of its tree is not. -/
theorem not_forall_ofDump_compact :
    ¬∀ s n, ofDump s = .ok n → (∀ x ∈ n.coordinates, Number.Exact x) →
      ofDump n.json.compact = .ok n := by
  intro h
  have hexact : ∀ x ∈ (chain 63).coordinates, Number.Exact x := by
    rw [coordinates_chain]
    exact List.forall_mem_nil _
  have hread := h _ _ ofDump_chainJson hexact
  rw [ofDump_compact hexact, height_chain, if_neg (by omega)] at hread
  cases hread

end Node

end ScreenPages
