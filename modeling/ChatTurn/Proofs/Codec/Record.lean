import ChatTurn.Json.Reader
import ChatTurn.Proofs.Json.Writing
import ChatTurn.Proofs.Ordered

namespace ChatTurn.Json

section Trees

variable {d : Nat} {vs : List Value} {ms : List (String × Value)}

theorem value?_array (hd : d + 1 < maxDepth) (h : ∀ v ∈ vs, v.node.value? (d + 1) = some v) :
    (Value.array vs).node.value? d = some (.array vs) := by
  have hvs : Node.values? (d + 1) (Value.nodes vs) = some vs := by
    clear hd
    induction vs with
    | nil => rfl
    | cons v vs ih =>
        rw [List.forall_mem_cons] at h
        rw [Value.nodes, Node.values?, h.1, ih h.2]
        rfl
  rw [Value.node, Node.value?, if_pos hd, hvs]
  rfl

theorem value?_object (hd : d + 1 < maxDepth) (hk : (Ordered.keys ms).Nodup)
    (h : ∀ m ∈ ms, m.2.node.value? (d + 1) = some m.2) :
    (Value.object ms).node.value? d = some (.object ms) := by
  have hms : Node.entries? (d + 1) (Value.memberNodes ms) = some ms := by
    clear hd hk
    induction ms with
    | nil => rfl
    | cons m ms ih =>
        rw [List.forall_mem_cons] at h
        rw [Value.memberNodes, Node.entries?, h.1, ih h.2]
        rfl
  rw [Value.node, Node.value?, if_pos hd, hms, Option.map_some, Ordered.ofList_of_nodup hk]

theorem value?_member {k : String} {v : Value} (hd : d + 1 < maxDepth)
    (h : v.node.value? (d + 1) = some v) :
    (Value.object [(k, v)]).node.value? d = some (.object [(k, v)]) :=
  value?_object hd (List.pairwise_singleton _ _) (List.forall_mem_singleton.2 h)

theorem node_eq_null_iff {v : Value} : v.node = .null ↔ v = .null := by
  cases v <;> simp [Value.node]

end Trees

mutual

theorem Node.isSome_value? (d : Nat) : (n : Node) → (n.value? d).isSome = n.isSound d
  | .null | .bool _ => rfl
  | .number _ | .string _ => Option.isSome_map
  | .array items => by
      rw [Node.value?, Node.isSound, ← Node.isSome_values?]
      split
      · next hd => rw [Option.isSome_map, decide_eq_true hd, Bool.true_and]
      · next hd => rw [decide_eq_false hd, Bool.false_and]; rfl
  | .object members => by
      rw [Node.value?, Node.isSound, ← Node.isSome_entries?]
      split
      · next hd => rw [Option.isSome_map, decide_eq_true hd, Bool.true_and]
      · next hd => rw [decide_eq_false hd, Bool.false_and]; rfl

theorem Node.isSome_values? (d : Nat) :
    (ns : List Node) → (Node.values? d ns).isSome = Node.areSound d ns
  | [] => rfl
  | n :: ns => by
      rw [Node.values?, Node.areSound, ← Node.isSome_value?, ← Node.isSome_values?]
      cases n.value? d <;> cases Node.values? d ns <;> rfl

theorem Node.isSome_entries? (d : Nat) : (ms : List (Option String × Node)) →
    (Node.entries? d ms).isSome = Node.membersAreSound d ms
  | [] => rfl
  | (k, n) :: ms => by
      rw [Node.entries?, Node.membersAreSound, ← Node.isSome_value?, ← Node.isSome_entries?]
      cases k <;> cases n.value? d <;> cases Node.entries? d ms <;> rfl

end

namespace Place

variable {source : Source} {d : Nat} {p : Place}

theorem enter_of_lt (hd : d + 1 < maxDepth) :
    Place.enter ⟨source, d⟩ = some ⟨source, d + 1⟩ :=
  if_neg fun h => Nat.not_le_of_lt hd h.2

theorem eq_of_enter (h : Place.enter ⟨source, d⟩ = some p) : p = ⟨source, d + 1⟩ := by
  rw [enter] at h
  split at h
  · cases h
  · exact (Option.some.inj h).symm

theorem copy_of_value? {v : Value} {s : Source} {n : Node} (h : n.value? d = some v) :
    Place.copy ⟨source, d⟩ s n = some ⟨s, d⟩ :=
  if_pos (by rw [← Node.isSome_value?, h]; rfl)

theorem copy_of_value?_eq_none {s : Source} {n : Node} (h : n.value? d = none) :
    Place.copy ⟨source, d⟩ s n = none :=
  if_neg (by rw [← Node.isSome_value?, h]; exact nofun)

theorem eq_of_copy {s : Source} {n : Node} (h : Place.copy ⟨source, d⟩ s n = some p) :
    p = ⟨s, d⟩ := by
  rw [copy] at h
  split at h
  · exact (Option.some.inj h).symm
  · cases h

end Place

section

variable {α β : Type} {read : Reader α} {toJson : α → Value} {d : Nat} {a : α} {source : Source}
  {n : Node}

/-- Written under `d` containers, the value is sound and read back. -/
structure Kept (read : Reader α) (toJson : α → Value) (d : Nat) (a : α) : Prop where
  value : (toJson a).node.value? d = some (toJson a)
  read : ∀ source, read ⟨source, d⟩ (toJson a).node = some a

/-- What is read under `d` containers is read back there. -/
structure Keeps (read : Reader α) (toJson : α → Value) (d : Nat) : Prop where
  kept : ∀ {source n a}, read ⟨source, d⟩ n = some a → (toJson a).IsExact → Kept read toJson d a

def KeepsSome (read : Reader α) (toJson : α → Value) (d : Nat) : Prop :=
  ∀ {source n a}, read ⟨source, d⟩ n = some a → n ≠ .null → (toJson a).IsExact → toJson a ≠ .null

theorem kept_string (s : String) : Kept Reader.string Value.string d s := ⟨rfl, fun _ => rfl⟩

theorem keeps_string : Keeps Reader.string Value.string d := ⟨fun _ _ => kept_string _⟩

theorem kept_bool (b : Bool) : Kept Reader.bool Value.bool d b := ⟨rfl, fun _ => rfl⟩

theorem keeps_name {values : List (String × α)} {name : α → String}
    (h : ∀ a, Ordered.get? (name a) values = some a) :
    Keeps (Reader.name values) (fun a => .string (name a)) d :=
  ⟨fun _ _ => ⟨rfl, fun _ => h _⟩⟩

theorem value?_integer {i : Int} (hlow : -(1 <<< 63 : Nat) ≤ i) (hhigh : i < UInt64.size) :
    (Value.number (.integer i)).node.value? d = some (.number (.integer i)) := by
  rw [Value.node, Node.value?, number?_integer hlow hhigh]
  rfl

theorem value?_double {x : Double} (h : (Value.number (.double x)).IsExact) :
    (Value.number (.double x)).node.value? d = some (.number (.double x)) := by
  rw [Value.node, Node.value?, Double.readsBack_iff.1 (h x List.mem_cons_self)]
  rfl

theorem isFinite_of_double {x : Double} {p : Place} (h : Reader.double p n = some x) :
    x.isFinite = true := by
  cases n with
  | number l =>
      obtain ⟨m, hm, hx⟩ := Option.map_eq_some_iff.1 h
      have hr := Literal.isReadable_of_number? hm
      cases m with
      | integer i =>
          cases hx
          exact hr.ofInt
      | double y =>
          cases hx
          exact hr
  | _ => cases h

theorem ofDouble_of_isFinite {x : Double} (h : x.isFinite = true) :
    Value.ofDouble x = .number (.double x) := if_pos h

theorem kept_double {x : Double} (hx : x.isFinite = true) (h : x.ReadsBack) :
    Kept Reader.double Value.ofDouble d x := by
  have hw := ofDouble_of_isFinite hx
  constructor
  · rw [hw]
    exact value?_double (List.forall_mem_singleton.2 h)
  · intro source
    rw [hw, Value.node, Reader.double, Double.readsBack_iff.1 h]
    rfl

theorem keeps_double : Keeps Reader.double Value.ofDouble d := by
  refine ⟨fun {source n x} h hx => ?_⟩
  have hfinite := isFinite_of_double h
  rw [ofDouble_of_isFinite hfinite] at hx
  exact kept_double hfinite (hx x List.mem_cons_self)

theorem keepsSome_double : KeepsSome Reader.double Value.ofDouble d := by
  intro source n x h _ _
  rw [ofDouble_of_isFinite (isFinite_of_double h)]
  exact nofun

theorem mapM_of_forall {f : Node → Option α} {as : List α}
    (h : ∀ a ∈ as, f (toJson a).node = some a) :
    (Value.nodes (as.map toJson)).mapM f = some as := by
  induction as with
  | nil => rfl
  | cons a as ih =>
      rw [List.forall_mem_cons] at h
      rw [List.map_cons, Value.nodes, List.mapM_cons, h.1, ih h.2]
      rfl

theorem exists_of_mapM {f : β → Option α} {bs : List β} {as : List α}
    (h : bs.mapM f = some as) : ∀ a ∈ as, ∃ b ∈ bs, f b = some a := by
  induction bs generalizing as with
  | nil =>
      cases h
      exact List.forall_mem_nil _
  | cons b bs ih =>
      rw [List.mapM_cons] at h
      obtain ⟨a, ha, h⟩ := Option.bind_eq_some_iff.1 h
      obtain ⟨cs, hcs, h⟩ := Option.bind_eq_some_iff.1 h
      cases h
      refine List.forall_mem_cons.2 ⟨⟨b, List.mem_cons_self, ha⟩, fun c hc => ?_⟩
      obtain ⟨b', hb', hf⟩ := ih hcs c hc
      exact ⟨b', List.mem_cons_of_mem _ hb', hf⟩

theorem Kept.list {as : List α} (h : ∀ a ∈ as, Kept read toJson (d + 1) a) (hd : d + 1 < maxDepth) :
    Kept (Reader.list read) (fun as => .array (as.map toJson)) d as where
  value := value?_array hd (List.forall_mem_map.2 fun a ha => (h a ha).value)
  read source := by
    rw [Value.node, Reader.list, Place.enter_of_lt hd]
    exact mapM_of_forall fun a ha => (h a ha).read source

theorem Kept.nil (hd : d + 1 < maxDepth) :
    Kept (Reader.list read) (fun as => .array (as.map toJson)) d [] :=
  Kept.list (List.forall_mem_nil _) hd

theorem Keeps.list (h : Keeps read toJson (d + 1)) (hd : d + 1 < maxDepth) :
    Keeps (Reader.list read) (fun as => .array (as.map toJson)) d := by
  refine ⟨fun {source n as} hread hx => Kept.list (fun a ha => ?_) hd⟩
  cases n with
  | array items =>
      obtain ⟨p, hp, hmap⟩ := Option.bind_eq_some_iff.1 hread
      cases Place.eq_of_enter hp
      obtain ⟨m, -, hm⟩ := exists_of_mapM hmap a ha
      exact h.kept hm (Value.isExact_array.1 hx _ (List.mem_map_of_mem ha))
  | _ => cases hread

def entries (toJson : α → Value) (es : Ordered α) : List (String × Value) :=
  es.map fun e => (e.1, toJson e.2)

theorem keys_entries (es : Ordered α) : Ordered.keys (entries toJson es) = Ordered.keys es := by
  rw [Ordered.keys, entries, List.map_map]
  rfl

theorem mapM_of_forall_entries {f : Option String × Node → Option (String × α)} {es : Ordered α}
    (h : ∀ e ∈ es, f (some e.1, (toJson e.2).node) = some e) :
    (Value.memberNodes (entries toJson es)).mapM f = some es := by
  induction es with
  | nil => rfl
  | cons e es ih =>
      rw [List.forall_mem_cons] at h
      rw [entries, List.map_cons, Value.memberNodes, List.mapM_cons, h.1, ← entries, ih h.2]
      rfl

theorem Kept.dictionary {es : Ordered α} (hk : (Ordered.keys es).Nodup)
    (h : ∀ e ∈ es, Kept read toJson (d + 1) e.2) (hd : d + 1 < maxDepth) :
    Kept (Reader.dictionary read) (fun es => .object (entries toJson es)) d es := by
  constructor
  · refine value?_object hd ?_ (List.forall_mem_map.2 fun e he => (h e he).value)
    rw [keys_entries]
    exact hk
  · intro source
    have hmap : (Value.memberNodes (entries toJson es)).mapM (fun (m : Option String × Node) => do
        let k ← m.1
        let v ← read ⟨source, d + 1⟩ m.2
        some (k, v)) = some es := by
      refine mapM_of_forall_entries fun e he => ?_
      simp only [bind, Option.bind, (h e he).read source]
    rw [Value.node, Reader.dictionary, Place.enter_of_lt hd]
    simp only [bind, Option.bind] at hmap ⊢
    rw [hmap]
    exact if_pos hk

theorem Kept.noEntries (hd : d + 1 < maxDepth) :
    Kept (Reader.dictionary read) (fun es => .object (entries toJson es)) d [] :=
  Kept.dictionary List.nodup_nil (List.forall_mem_nil _) hd

theorem Keeps.dictionary (h : Keeps read toJson (d + 1)) (hd : d + 1 < maxDepth) :
    Keeps (Reader.dictionary read) (fun es => .object (entries toJson es)) d := by
  refine ⟨fun {source n es} hread hx => ?_⟩
  cases n with
  | object members =>
      obtain ⟨p, hp, hread⟩ := Option.bind_eq_some_iff.1 hread
      cases Place.eq_of_enter hp
      obtain ⟨fs, hmap, hread⟩ := Option.bind_eq_some_iff.1 hread
      split at hread
      · next hnodup =>
          cases hread
          refine Kept.dictionary hnodup (fun e he => ?_) hd
          obtain ⟨⟨k, m⟩, -, hm⟩ := exists_of_mapM hmap e he
          obtain ⟨k, -, hm⟩ := Option.bind_eq_some_iff.1 hm
          obtain ⟨a, ha, hm⟩ := Option.bind_eq_some_iff.1 hm
          cases hm
          exact h.kept ha (Value.isExact_object.1 hx _ (List.mem_map_of_mem he))
      · cases hread
  | _ => cases hread

end

def present (columns : List (String × Option Value)) : List (String × Value) :=
  columns.filterMap fun c => c.2.map (c.1, ·)

section

variable {columns : List (String × Option Value)} {names : List String} {fs : List (String × Value)}
  {source : Source} {d : Nat}

theorem keys_present : (Ordered.keys (present columns)).Sublist (columns.map Prod.fst) := by
  induction columns with
  | nil => exact List.Sublist.refl _
  | cons c columns ih =>
      obtain ⟨k, v⟩ := c
      cases v with
      | none => exact ih.cons k
      | some v => exact ih.cons_cons k

theorem forall_mem_present {p : Value → Prop} :
    (∀ m ∈ present columns, p m.2) ↔ ∀ c ∈ columns, ∀ v ∈ c.2, p v := by
  induction columns with
  | nil => simp [present]
  | cons c columns ih =>
      obtain ⟨k, v⟩ := c
      rw [List.forall_mem_cons, ← ih]
      cases v with
      | none => simp [present]
      | some v => simp [present]

theorem get?_present {k : String} (h : (columns.map Prod.fst).Nodup) :
    Ordered.get? k (present columns) = (Ordered.get? k columns).join := by
  induction columns with
  | nil => rfl
  | cons c columns ih =>
      obtain ⟨k', v⟩ := c
      rw [List.map_cons, List.nodup_cons] at h
      have hrest : present ((k', v) :: columns) =
          (v.map (k', ·)).toList ++ present columns := by
        cases v <;> rfl
      rw [hrest]
      by_cases hk : k' = k
      · subst hk
        have hnone : Ordered.get? k' (present columns) = none :=
          Ordered.get?_eq_none_iff.2 fun hm => h.1 (keys_present.subset hm)
        cases v <;> simp [Ordered.get?, hnone]
      · cases v <;> simp [Ordered.get?, hk, ih h.2]

theorem get?_map_node (k : String) (fs : List (String × Value)) :
    Ordered.get? k (fs.map fun m => (m.1, m.2.node)) = (Ordered.get? k fs).map Value.node := by
  induction fs with
  | nil => rfl
  | cons m fs ih =>
      by_cases hk : m.1 = k <;> simp [Ordered.get?, hk, ih]

def Record.written (source : Source) (d : Nat) (fs : List (String × Value)) : Record :=
  ⟨⟨source, d⟩, fs.map fun m => (m.1, m.2.node)⟩

theorem Record.known_memberNodes (hk : (Ordered.keys fs).Nodup) (hs : ∀ k ∈ Ordered.keys fs, k ∈ names) :
    known names (Value.memberNodes fs) = some (fs.map fun m => (m.1, m.2.node)) := by
  induction fs with
  | nil => rfl
  | cons m fs ih =>
      rw [Ordered.keys, List.map_cons, List.nodup_cons] at hk
      rw [Ordered.keys, List.map_cons, List.forall_mem_cons] at hs
      have hm : m.1 ∉ (fs.map fun m => (m.1, m.2.node)).map Prod.fst := by
        rw [List.map_map]
        exact hk.1
      rw [Value.memberNodes, known, ih hk.2 hs.2]
      simp only [bind, Option.bind]
      rw [if_neg (not_not_intro hs.1), if_neg hm]
      rfl

theorem Record.ofNode_object (hd : d + 1 < maxDepth) (hn : names.Nodup)
    (hs : (Ordered.keys fs).Sublist names) : ofNode names ⟨source, d⟩ (Value.object fs).node =
      some (written source (d + 1) fs) := by
  rw [Value.node, ofNode, Place.enter_of_lt hd]
  simp only [bind, Option.bind]
  rw [known_memberNodes (hn.sublist hs) fun k hk => hs.subset hk]
  rfl

theorem Record.ofNode_present (hd : d + 1 < maxDepth) (hn : names.Nodup)
    (hnames : columns.map Prod.fst = names) :
    ofNode names ⟨source, d⟩ (Value.object (present columns)).node =
      some (written source (d + 1) (present columns)) :=
  ofNode_object hd hn (hnames ▸ keys_present)

theorem Record.place_of_ofNode {r : Record} {n : Node}
    (h : ofNode names ⟨source, d⟩ n = some r) : r.place = ⟨source, d + 1⟩ := by
  cases n with
  | object members =>
      obtain ⟨p, hp, h⟩ := Option.bind_eq_some_iff.1 h
      obtain ⟨fs, -, h⟩ := Option.bind_eq_some_iff.1 h
      cases h
      exact Place.eq_of_enter hp
  | array items =>
      obtain ⟨p, hp, h⟩ := Option.bind_eq_some_iff.1 h
      split at h
      · cases h
      · cases h
        exact Place.eq_of_enter hp
  | _ => cases h

end

section

variable {α β : Type} {read : Reader α} {toJson : α → Value} {d : Nat} {a : α} {name : String}
  {r : Record}

/-- A field with what is written of it, if anything, is read back from any record that has it. -/
structure Field (d : Nat) (name : String) (get : Record → Option β) (v : Option Value) (b : β) :
    Prop where
  value : ∀ w ∈ v, w.node.value? d = some w
  get : ∀ {source columns}, (columns.map Prod.fst).Nodup → Ordered.get? name columns = some v →
    get (Record.written source d (present columns)) = some b

theorem Record.get?_written {columns : List (String × Option Value)} {v : Option Value}
    (hn : (columns.map Prod.fst).Nodup) (hc : Ordered.get? name columns = some v)
    (source : Source) : Ordered.get? name (written source d (present columns)).fields =
      v.map Value.node := by
  rw [written, get?_map_node, get?_present hn, hc]
  rfl

theorem Kept.required (h : Kept read toJson d a) (name : String) :
    Field d name (·.required name read) (some (toJson a)) a where
  value _ hw := Option.some.inj hw ▸ h.value
  get hn hc := by
    rw [Record.required, Record.get?_written hn hc]
    exact h.read _

theorem Record.defaulted_written {columns : List (String × Option Value)} {w : Value}
    (hn : (columns.map Prod.fst).Nodup) (hc : Ordered.get? name columns = some (some w))
    (source : Source) (default : α) :
    (written source d (present columns)).defaulted name default read = read ⟨source, d⟩ w.node := by
  rw [defaulted, get?_written hn hc]
  rfl

theorem Kept.defaulted (h : Kept read toJson d a) (name : String) (default : α) :
    Field d name (·.defaulted name default read) (some (toJson a)) a where
  value _ hw := Option.some.inj hw ▸ h.value
  get hn hc := (Record.defaulted_written hn hc _ default).trans (h.read _)

theorem field_default (default : α) : Field d name (·.defaulted name default read) none default where
  value := nofun
  get hn hc := by
    rw [Record.defaulted, Record.get?_written hn hc]
    rfl

theorem Kept.omitted (h : Kept read toJson d a) (name : String) {default : α} {c : Bool}
    (hc : c = true → a = default) :
    Field d name (·.defaulted name default read) (if c then none else some (toJson a)) a := by
  cases c with
  | true =>
      rw [if_pos rfl, hc rfl]
      exact field_default default
  | false => exact h.defaulted name default

theorem option_of_ne_null {p : Place} {n : Node} (h : n ≠ .null) :
    Reader.option read p n = (read p n).map some := by
  cases n with
  | null => exact absurd rfl h
  | _ => rfl

theorem Kept.optional {x : Option α} (h : ∀ a ∈ x, Kept read toJson d a ∧ toJson a ≠ .null)
    (name : String) :
    Field d name (·.optional name read) (x.map toJson) x := by
  cases x with
  | none => exact field_default none
  | some a =>
      obtain ⟨hk, hw⟩ := h a rfl
      have hsome : Kept (Reader.option read) (Option.elim · .null toJson) d (some a) := by
        refine ⟨hk.value, fun source => ?_⟩
        rw [Option.elim, option_of_ne_null fun hnull => hw (node_eq_null_iff.1 hnull), hk.read]
        rfl
      exact hsome.defaulted name none

theorem Keeps.of_required (h : Keeps read toJson d) (hr : r.place.depth = d)
    (hread : r.required name read = some a) (hx : ∀ w ∈ some (toJson a), w.IsExact) :
    Kept read toJson d a := by
  obtain ⟨n, -, hn⟩ := Option.bind_eq_some_iff.1 hread
  obtain ⟨⟨source, d'⟩, fields⟩ := r
  cases hr
  exact h.kept hn (hx _ rfl)

theorem eq_or_of_defaulted {default : α} (hread : r.defaulted name default read = some a) :
    a = default ∨ ∃ n, read r.place n = some a := by
  rw [Record.defaulted] at hread
  split at hread
  · exact .inl (Option.some.inj hread).symm
  · next n _ => exact .inr ⟨n, hread⟩

theorem Keeps.of_defaulted (h : Keeps read toJson d) (hr : r.place.depth = d) {default : α}
    (h0 : Kept read toJson d default) (hread : r.defaulted name default read = some a)
    (hx : a ≠ default → (toJson a).IsExact) : Kept read toJson d a := by
  by_cases ha : a = default
  · exact ha ▸ h0
  · obtain ⟨n, hn⟩ := (eq_or_of_defaulted hread).resolve_left ha
    obtain ⟨⟨source, d'⟩, fields⟩ := r
    cases hr
    exact h.kept hn (hx ha)

theorem Keeps.of_optional (h : Keeps read toJson d) (hs : KeepsSome read toJson d)
    (hr : r.place.depth = d) {x : Option α} (hread : r.optional name read = some x)
    (hx : ∀ w ∈ x.map toJson, w.IsExact) :
    ∀ a ∈ x, Kept read toJson d a ∧ toJson a ≠ .null := by
  rintro a rfl
  obtain ⟨n, hn⟩ := (eq_or_of_defaulted hread).resolve_left nofun
  have hne : n ≠ .null := by
    rintro rfl
    cases hn
  rw [option_of_ne_null hne] at hn
  obtain ⟨a', ha, he⟩ := Option.map_eq_some_iff.1 hn
  cases he
  obtain ⟨⟨source, d'⟩, fields⟩ := r
  cases hr
  exact ⟨h.kept ha (hx _ rfl), hs ha hne (hx _ rfl)⟩

/-- A record whose fields are written in their order is read back where all of them are. -/
theorem Kept.record (names : List String) {fields : Record → Option α}
    {columns : List (String × Option Value)} (hd : d + 1 < maxDepth) (hn : names.Nodup)
    (hnames : columns.map Prod.fst = names) (hjson : toJson a = .object (present columns))
    (hvalue : ∀ c ∈ columns, ∀ v ∈ c.2, v.node.value? (d + 1) = some v)
    (hfields : (columns.map Prod.fst).Nodup →
      ∀ source, fields (Record.written source (d + 1) (present columns)) = some a) :
    Kept (fun p n => (Record.ofNode names p n).bind fields) toJson d a := by
  have hcolumns : (columns.map Prod.fst).Nodup := hnames ▸ hn
  constructor
  · rw [hjson]
    exact value?_object hd (hcolumns.sublist keys_present) (forall_mem_present.2 hvalue)
  · intro source
    rw [hjson, Record.ofNode_present hd hn hnames]
    exact hfields hcolumns source

theorem keeps_of_record (names : List String) {fields : Record → Option α}
    (h : ∀ {r a}, r.place.depth = d + 1 → fields r = some a → (toJson a).IsExact →
      Kept (fun p n => (Record.ofNode names p n).bind fields) toJson d a) :
    Keeps (fun p n => (Record.ofNode names p n).bind fields) toJson d := by
  refine ⟨fun {source n a} hread hx => ?_⟩
  obtain ⟨r, hr, hread⟩ := Option.bind_eq_some_iff.1 hread
  exact h (by rw [Record.place_of_ofNode hr]) hread hx

theorem keeps_record (names : List String) {fields : Record → Option α}
    (columns : α → List (String × Option Value)) (hd : d + 1 < maxDepth) (hn : names.Nodup)
    (hnames : ∀ {r a}, fields r = some a → (columns a).map Prod.fst = names)
    (h : ∀ {r a}, r.place.depth = d + 1 → ((columns a).map Prod.fst).Nodup →
      fields r = some a → (∀ c ∈ columns a, ∀ v ∈ c.2, v.IsExact) →
      (∀ c ∈ columns a, ∀ v ∈ c.2, v.node.value? (d + 1) = some v) ∧
        ∀ source, fields (Record.written source (d + 1) (present (columns a))) = some a) :
    Keeps (fun p n => (Record.ofNode names p n).bind fields)
      (fun a => .object (present (columns a))) d := by
  refine keeps_of_record names fun {r a} hr hread hx => ?_
  rw [Value.isExact_object, forall_mem_present] at hx
  obtain ⟨hvalue, hfields⟩ := h hr (hnames hread ▸ hn) hread hx
  exact Kept.record names hd hn (hnames hread) rfl hvalue fun _ => hfields

theorem isExact_of_ne_nil {as : List β} {v : Value}
    (hx : ∀ w ∈ if as.isEmpty then none else some v, w.IsExact) (h : as ≠ []) : v.IsExact := by
  rw [if_neg fun he => h (List.isEmpty_iff.1 he)] at hx
  exact hx v rfl

theorem Kept.single (h : Kept read toJson (d + 1) a) (hd : d + 1 < maxDepth) (name : String) :
    Kept (fun p n => (Record.ofNode [name] p n).bind (·.required name read))
      (fun a => .object [(name, toJson a)]) d a := by
  have hn : [name].Nodup := List.pairwise_singleton _ _
  refine ⟨value?_member hd h.value, fun source => ?_⟩
  rw [Record.ofNode_object hd hn (List.Sublist.refl _)]
  have hcolumn : Ordered.get? name [(name, some (toJson a))] = some (some (toJson a)) := if_pos rfl
  have hnames : ([(name, some (toJson a))].map Prod.fst).Nodup := hn
  exact (h.required name).get hnames hcolumn

theorem Keeps.single (h : Keeps read toJson (d + 1)) (hd : d + 1 < maxDepth) (name : String) :
    Keeps (fun p n => (Record.ofNode [name] p n).bind (·.required name read))
      (fun a => .object [(name, toJson a)]) d := by
  refine ⟨fun {source n a} hread hx => ?_⟩
  obtain ⟨r, hr, hread⟩ := Option.bind_eq_some_iff.1 hread
  obtain ⟨m, -, hm⟩ := Option.bind_eq_some_iff.1 hread
  rw [Record.place_of_ofNode hr] at hm
  exact (h.kept hm (Value.isExact_object.1 hx _ List.mem_cons_self)).single hd name

theorem Kept.map {f : α → β} {toJson' : β → Value} (h : Kept read toJson d a)
    (hf : toJson' (f a) = toJson a) : Kept (fun p n => (read p n).map f) toJson' d (f a) := by
  refine ⟨by rw [hf, h.value], fun source => ?_⟩
  rw [hf, h.read, Option.map_some]

theorem Keeps.map {f : α → β} {toJson' : β → Value} (h : Keeps read toJson d)
    (hf : ∀ a, toJson' (f a) = toJson a) : Keeps (fun p n => (read p n).map f) toJson' d := by
  refine ⟨fun {source n b} hread hx => ?_⟩
  obtain ⟨a, ha, rfl⟩ := Option.map_eq_some_iff.1 hread
  rw [hf] at hx
  exact (h.kept ha hx).map (hf a)

/-- Of two forms the first that fits is taken, so what is written in the second must not fit it. -/
theorem Keeps.firstOf {γ : Type} {f : α → γ} {g : β → γ} {readOther : Reader β}
    {toOther : β → Value} {readBoth : Reader γ} {toBoth : γ → Value} (h : Keeps read toJson d)
    (h' : Keeps readOther toOther d)
    (hread : ∀ p n, readBoth p n = (p.copy .trial n).bind fun p =>
      ((read p n).map f).or ((readOther p n).map g))
    (hf : ∀ a, toBoth (f a) = toJson a) (hg : ∀ b, toBoth (g b) = toOther b)
    (hnone : ∀ {n b}, read ⟨.trial, d⟩ n = none → readOther ⟨.trial, d⟩ n = some b →
      read ⟨.trial, d⟩ (toOther b).node = none) : Keeps readBoth toBoth d := by
  refine ⟨fun {source n c} hc hx => ?_⟩
  rw [hread] at hc
  obtain ⟨p, hp, hc⟩ := Option.bind_eq_some_iff.1 hc
  cases Place.eq_of_copy hp
  cases hfirst : read ⟨.trial, d⟩ n with
  | some a =>
      rw [hfirst] at hc
      cases hc
      rw [hf] at hx
      have hk := h.kept hfirst hx
      refine ⟨by rw [hf, hk.value], fun source => ?_⟩
      rw [hf, hread, Place.copy_of_value? hk.value, Option.bind_some, hk.read]
      rfl
  | none =>
      rw [hfirst, Option.map_none, Option.none_or] at hc
      obtain ⟨b, hb, rfl⟩ := Option.map_eq_some_iff.1 hc
      rw [hg] at hx
      have hk := h'.kept hb hx
      refine ⟨by rw [hg, hk.value], fun source => ?_⟩
      rw [hg, hread, Place.copy_of_value? hk.value, Option.bind_some, hnone hfirst hb, hk.read]
      rfl

end

section

variable {tag name : String} {names : List String} {fs : List (String × Value)} {source : Source}
  {d : Nat}

theorem keys_of_entries? {es : List (String × Value)}
    (h : Node.entries? d (Value.memberNodes fs) = some es) : Ordered.keys es = Ordered.keys fs := by
  induction fs generalizing es with
  | nil =>
      cases h
      rfl
  | cons m fs ih =>
      obtain ⟨v, -, h⟩ := Option.bind_eq_some_iff.1 h
      obtain ⟨es, hes, h⟩ := Option.bind_eq_some_iff.1 h
      cases h
      exact congrArg (m.1 :: ·) (ih hes)

theorem value?_cons {k : String} {v : Value} (h : (Value.object fs).node.value? d = some (.object fs))
    (hk : k ∉ Ordered.keys fs) (hv : v.node.value? (d + 1) = some v) :
    (Value.object ((k, v) :: fs)).node.value? d = some (.object ((k, v) :: fs)) := by
  rw [Value.node, Node.value?] at h ⊢
  split at h
  · next hd =>
      obtain ⟨es, hes, h⟩ := Option.map_eq_some_iff.1 h
      have hfs : Ordered.ofList es = fs := Value.object.inj h
      have hnodup : (Ordered.keys fs).Nodup := hfs ▸ Ordered.nodup_keys_ofList es
      rw [Ordered.ofList_of_nodup (keys_of_entries? hes ▸ hnodup)] at hfs
      rw [hfs] at hes
      have hentries : Node.entries? (d + 1) (Value.memberNodes ((k, v) :: fs)) =
          some ((k, v) :: fs) := by
        rw [Value.memberNodes, Node.entries?, hv, hes]
        rfl
      have hcons : (Ordered.keys ((k, v) :: fs)).Nodup := List.nodup_cons.2 ⟨hk, hnodup⟩
      rw [if_pos hd, hentries, Option.map_some, Ordered.ofList_of_nodup hcons]
  · cases h

theorem splitTag_memberNodes (h : tag ∉ Ordered.keys fs) :
    splitTag tag (Value.memberNodes fs) = some (none, Value.memberNodes fs) := by
  induction fs with
  | nil => rfl
  | cons m fs ih =>
      rw [Ordered.keys, List.map_cons, List.mem_cons, not_or] at h
      have hm : some m.1 ≠ some tag := fun he => h.1 (Option.some.inj he).symm
      rw [Value.memberNodes, splitTag, ih h.2]
      exact if_neg hm

theorem untag_object (hd : d + 1 < maxDepth) (hname : name ∈ names) (htag : tag ∉ Ordered.keys fs)
    (h : (Value.object fs).node.value? d = some (.object fs)) :
    untag tag names ⟨source, d⟩ (Value.object ((tag, .string name) :: fs)).node =
      some (name, ⟨.tagged, d⟩, (Value.object fs).node) := by
  have hsplit : splitTag tag (Value.memberNodes ((tag, .string name) :: fs)) =
      some (some (.string (some name)), Value.memberNodes fs) := by
    rw [Value.memberNodes, splitTag, splitTag_memberNodes htag]
    simp only [bind, Option.bind, Option.isSome_none, Bool.false_eq_true, if_false, if_true]
    rfl
  have htagName : tagName names ⟨source, d + 1⟩ (.string (some name)) = some name := if_pos hname
  have hcopy : Place.copy ⟨source, d⟩ .tagged (.object (Value.memberNodes fs)) =
      some ⟨.tagged, d⟩ := Place.copy_of_value? h
  rw [Value.node, untag, Place.enter_of_lt hd]
  simp only [bind, Option.bind, hsplit, htagName, hcopy]
  rfl

theorem place_of_untag {n m : Node} {p : Place}
    (h : untag tag names ⟨source, d⟩ n = some (name, p, m)) : p = ⟨.tagged, d⟩ := by
  rw [untag.eq_def] at h
  split at h
  · obtain ⟨inner, -, h⟩ := Option.bind_eq_some_iff.1 h
    obtain ⟨⟨found, rest⟩, -, h⟩ := Option.bind_eq_some_iff.1 h
    obtain ⟨name', -, h⟩ := Option.bind_eq_some_iff.1 h
    obtain ⟨inside, hp, h⟩ := Option.bind_eq_some_iff.1 h
    cases h
    exact Place.eq_of_copy hp
  · obtain ⟨inner, -, h⟩ := Option.bind_eq_some_iff.1 h
    obtain ⟨name', -, h⟩ := Option.bind_eq_some_iff.1 h
    obtain ⟨inside, hp, h⟩ := Option.bind_eq_some_iff.1 h
    cases h
    exact Place.eq_of_copy hp
  · cases h

end

end ChatTurn.Json
