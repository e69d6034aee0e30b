import FleetConsole.Proofs.Yaml.Typed

/-!
# The value of a node

What is written into a mapping are texts, numbers, truth values and further mappings, and nothing of
it has a tag or is an alias. Such a node has a value (`Node.value?`), which says for every scalar
whether it is a text or something else. Typed reading asks for a type without knowing the value. It
comes to the value that a node has, if the value is of the type that is asked for.
-/

namespace FleetConsole.Yaml

mutual

/-- The value of a node that is made of scalars and mappings, without tags and aliases. An object
has the entries of its mapping in their order. -/
def Node.value? : Node → Option Json
  | .scalar none text style => if style = .plain then plainTree? text else some (.str text)
  | .mapping none entries => (Node.entryValues? entries).map .obj
  | _ => none
termination_by structural n => n

/-- The values of all entries of a mapping. -/
def Node.entryValues? : List (Node × Node) → Option (List (String × Json))
  | [] => some []
  | e :: es => do return (← Node.entryValue? e) :: (← Node.entryValues? es)
termination_by structural es => es

/-- The value of an entry under its key. -/
def Node.entryValue? : Node × Node → Option (String × Json)
  | (.scalar none key _, n) => n.value?.map (key, ·)
  | _ => none
termination_by structural e => e

end

/-! ## Plain scalars -/

/-- What a plain scalar can be: null, or else a truth value, an integer, a float or its own text. -/
inductive PlainTree (s : String) : Json → Prop where
  | null : PlainTree s .null
  | bool {b : Bool} (reads : bool? s = some b) : PlainTree s (.bool b)
  | int {n : Int} (reads : integer? s.toList = some n) : PlainTree s (.int n)
  | float {x : Double} : PlainTree s (.float x)
  | text (written : s ≠ "") (notNull : isNull s = false) : PlainTree s (.str s)

/-- An integer of a plain scalar is written as one. -/
theorem eq_int_of_integerTree? {cs : List Char} {j : Json}
    (h : integerTree? cs = some (some j)) : ∃ n, integer? cs = some n ∧ j = .int n := by
  unfold integerTree? at h
  split at h
  · cases h
  · next n hn =>
    split at h
    · cases h
      exact ⟨n, hn, rfl⟩
    · split at h <;> cases h

/-- The tree of a plain scalar is one of these. -/
theorem plainTree_of_plainTree? {s : String} {j : Json} (h : plainTree? s = some j) :
    PlainTree s j := by
  unfold plainTree? at h
  dsimp only at h
  split at h
  · cases h
    exact .null
  · next hnull =>
    obtain ⟨hwritten, hnull⟩ : s ≠ "" ∧ isNull s = false := by simpa using hnull
    split at h
    · next b hb =>
      cases h
      exact .bool hb
    · split at h
      · next tree htree =>
        obtain ⟨n, hn, rfl⟩ := eq_int_of_integerTree? (htree.trans (congrArg some h))
        exact .int hn
      · split at h
        · cases h
          exact .text hwritten hnull
        · split at h
          · next x _ =>
            cases h
            cases x with
            | finite x => exact .float
            | _ => exact .null
          · cases h
            exact .text hwritten hnull

/-- A positive integer is written without a minus sign. -/
theorem unsigned?_of_integer? {cs : List Char} {n : Nat} (hpos : 0 < n)
    (h : integer? cs = some (n : Int)) : unsigned? cs = some n := by
  unfold integer? at h
  split at h
  · split at h
    · cases h
    · obtain ⟨m, hm, heq⟩ := Option.map_eq_some_iff.mp h
      obtain ⟨k, -, hk⟩ := Option.bind_eq_some_iff.mp hm
      obtain rfl := Option.some.inj hk
      omega
  · obtain ⟨m, hm, rfl⟩ := Option.map_eq_some_iff.mp h
    obtain ⟨k, hk, heq⟩ := Option.bind_eq_some_iff.mp hm
    rw [hk, Int.ofNat_inj.mp (Option.some.inj heq)]

namespace Document

variable {d : Document} {n : Node}

/-! ## Scalars -/

/-- A node whose value is no object is a scalar: a plain one with this tree, or one in another style
with its text. -/
theorem scalar_of_value? {j : Json} (h : n.value? = some j) (hj : ∀ es, j ≠ .obj es) :
    ∃ text style, n = .scalar none text style ∧
      ((style = .plain ∧ PlainTree text j) ∨ (style ≠ .plain ∧ j = .str text)) := by
  unfold Node.value? at h
  split at h
  · next text style =>
    split at h
    · next hplain => exact ⟨text, style, rfl, .inl ⟨hplain, plainTree_of_plainTree? h⟩⟩
    · next hplain => exact ⟨text, style, rfl, .inr ⟨hplain, (Option.some.inj h).symm⟩⟩
  · obtain ⟨es, -, rfl⟩ := Option.map_eq_some_iff.mp h
    exact absurd rfl (hj es)
  · cases h

/-- A node whose value is a text is a scalar with this text, and is not written as null. -/
theorem scalar_of_text {t : String} (h : n.value? = some (.str t)) :
    ∃ style, n = .scalar none t style ∧ isNullNode n = false := by
  obtain ⟨text, style, rfl, ⟨rfl, hplain⟩ | ⟨hstyle, htext⟩⟩ := scalar_of_value? h nofun
  · cases hplain with
    | text hwritten hnull => exact ⟨_, rfl, by simp [isNullNode, hwritten, hnull]⟩
  · cases htext
    refine ⟨style, rfl, ?_⟩
    cases style with
    | plain => exact absurd rfl hstyle
    | _ => rfl

/-- A text is read as a text. -/
theorem textOf_of_value? {t : String} (h : n.value? = some (.str t)) : d.textOf n = pure t := by
  obtain ⟨style, rfl, -⟩ := scalar_of_text h
  rfl

/-- A text is read as a text where there may be none. -/
theorem optional_of_value? {t : String} (h : n.value? = some (.str t)) :
    Document.optional d.textOf d n = pure (some t) := by
  obtain ⟨style, rfl, hnull⟩ := scalar_of_text h
  have hresolve : d.resolve (.scalar none t style) = pure (.scalar none t style) := rfl
  simp only [Document.optional, hresolve, pure_bind, hnull, Bool.false_eq_true, if_false,
    textOf_of_value? h, map_pure]

/-- A truth value is read as a truth value. -/
theorem boolOf_of_value? {b : Bool} (h : n.value? = some (.bool b)) : d.boolOf n = pure b := by
  obtain ⟨text, style, rfl, ⟨rfl, hplain⟩ | ⟨-, htext⟩⟩ := scalar_of_value? h nofun
  · cases hplain with
    | bool hreads =>
      have htext : d.plainText "bool" (.scalar none text .plain) = pure text := rfl
      simp only [boolOf, htext, pure_bind, hreads]
  · cases htext

/-- A positive number is read as a number. -/
theorem wordOf_of_value? {w : UInt64} (hpos : w ≠ 0) (h : n.value? = some (.int w.toNat)) :
    d.wordOf n = pure w := by
  obtain ⟨text, style, rfl, ⟨rfl, hplain⟩ | ⟨-, htext⟩⟩ := scalar_of_value? h nofun
  · cases hplain with
    | int hreads =>
      have htext : d.plainText "int" (.scalar none text .plain) = pure text := rfl
      have hnat : 0 < w.toNat := Nat.pos_of_ne_zero fun h0 => hpos (UInt64.toNat_inj.mp h0)
      have hlt : w.toNat < Nat.pow 2 64 := w.toNat_lt
      simp only [wordOf, htext, pure_bind, unsigned?_of_integer? hnat hreads, hlt, if_true,
        UInt64.ofNat_toNat]
  · cases htext

/-! ## Records -/

/-- The entries of a mapping that have values are read under the same keys. -/
theorem entries_of_entryValues? {nodes : List (Node × Node)} {es : List (String × Json)}
    (h : Node.entryValues? nodes = some es) :
    ∃ entries : List (String × Node),
      nodes.mapM (fun e => (return (← d.textOf e.1, e.2) : Follow (String × Node))) = pure entries ∧
      List.Forall₂ (fun entry e => entry.1 = e.1 ∧ entry.2.value? = some e.2) entries es := by
  induction nodes generalizing es with
  | nil =>
    cases h
    exact ⟨[], rfl, .nil⟩
  | cons node nodes ih =>
    obtain ⟨e, he, hrest⟩ := Option.bind_eq_some_iff.mp h
    obtain ⟨es', hes, heq⟩ := Option.bind_eq_some_iff.mp hrest
    cases heq
    obtain ⟨entries, hentries, heach⟩ := ih hes
    unfold Node.entryValue? at he
    split at he
    · next key style n =>
      obtain ⟨value, hvalue, rfl⟩ := Option.map_eq_some_iff.mp he
      refine ⟨(key, n) :: entries, ?_, .cons ⟨rfl, hvalue⟩ heach⟩
      have hkey : d.textOf (.scalar none key style) = pure key := rfl
      simp only [List.mapM_cons, hkey, pure_bind, hentries]
    · cases he

/-- The entries of an object are those of its mapping. -/
theorem entriesOf_of_value? {es : List (String × Json)} (h : n.value? = some (.obj es)) :
    ∃ entries, d.entriesOf n = pure entries ∧
      List.Forall₂ (fun entry e => entry.1 = e.1 ∧ entry.2.value? = some e.2) entries es := by
  unfold Node.value? at h
  split at h
  · next text style =>
    split at h
    · cases plainTree_of_plainTree? h
    · cases h
  · next nodes =>
    obtain ⟨es', hes, heq⟩ := Option.map_eq_some_iff.mp h
    obtain rfl := Json.obj.inj heq
    exact entries_of_entryValues? hes
  · cases h

variable {σ : Type} {read : String → Option (Node → σ → Follow σ)}

/-- The entries of an object take a record to another: the record knows the key of each, reads its
value, and sets a part of itself to what it has read. -/
inductive Fills (d : Document) (read : String → Option (Node → σ → Follow σ)) :
    List (String × Json) → σ → σ → Prop where
  | nil {s : σ} : Fills d read [] s s
  | cons {α : Type} {key : String} {value : Json} {es : List (String × Json)} {s t : σ}
      {part : Node → Follow α} {set : α → σ → σ} {a : α}
      (known : read key = some fun n s => do return set (← part n) s)
      (reads : ∀ n : Node, n.value? = some value → part n = pure a)
      (rest : Fills d read es (set a s) t) : Fills d read ((key, value) :: es) s t

/-- Entries with the values of an object take a record where the object takes it. -/
theorem Fills.foldlM {es : List (String × Json)} {s t : σ} (h : Fills d read es s t)
    {entries : List (String × Node)}
    (heach : List.Forall₂ (fun entry e => entry.1 = e.1 ∧ entry.2.value? = some e.2) entries es) :
    entries.foldlM (readEntry read) s = pure t := by
  induction h generalizing entries with
  | nil =>
    cases heach
    rfl
  | cons hknown hreads _ ih =>
    obtain ⟨⟨key, n⟩, entries, ⟨rfl, hvalue⟩, hrest, rfl⟩ := List.forall₂_cons_right_iff.mp heach
    simp only [List.foldlM_cons, readEntry, hknown, hreads n hvalue, pure_bind]
    exact ih hrest

/-- A record is read from a mapping whose keys are all different by what its entries are. -/
theorem Fills.recordOf {es : List (String × Json)} {blank s : σ} (h : Fills d read es blank s)
    (hvalue : n.value? = some (.obj es)) (hkeys : (es.map (·.1)).Nodup) :
    d.recordOf read blank n = pure s := by
  obtain ⟨entries, hentries, heach⟩ := entriesOf_of_value? (d := d) hvalue
  have hsame : entries.map (·.1) = es.map (·.1) :=
    List.forall₂_eq_eq_eq ▸ List.forall₂_map_left_iff.mpr
      (List.forall₂_map_right_iff.mpr (heach.imp fun _ _ => And.left))
  have hknown : ((entries.map (·.1)).filter fun k => (read k).isSome).Nodup := by
    rw [hsame]
    exact hkeys.filter _
  simp only [Document.recordOf, hentries, pure_bind, hknown, decide_true, Bool.not_true,
    Bool.false_eq_true, if_false]
  exact h.foldlM heach

end Document

end FleetConsole.Yaml
