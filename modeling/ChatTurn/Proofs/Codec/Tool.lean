import ChatTurn.Proofs.Codec.Argument

namespace ChatTurn

open Json

theorem int64?_toInt (n : Int64) : int64? n.toInt = some n := by
  rw [int64?, if_pos ⟨n.minValue_le_toInt, n.toInt_le⟩, Int64.ofInt_toInt]

namespace Argument

variable {d : Nat}

theorem toValues_eq (as : List Argument) : toValues as = as.map toValue := by
  induction as with
  | nil => rfl
  | cons a as ih => rw [toValues, ih, List.map_cons]

theorem toMembers_eq (es : List (String × Argument)) : toMembers es = entries toValue es := by
  induction es with
  | nil => rfl
  | cons e es ih => rw [toMembers, ih, entries, entries, List.map_cons]

/-- Under `d` containers the argument is written as what is read as it. -/
def Stays (d : Nat) (a : Argument) : Prop :=
  a.toValue.node.value? d = some a.toValue ∧ ofValue a.toValue = a

theorem stays_float {x : Double} (h : x.isFinite = true) (hx : (float x).toValue.IsExact) :
    Stays d (float x) := by
  have hw : (float x).toValue = .number (.double x) := ofDouble_of_isFinite h
  rw [hw] at hx
  rw [Stays, hw]
  exact ⟨value?_double hx, rfl⟩

theorem stays_integer (k : Int64) : Stays d (integer k) := by
  have hlow := k.minValue_le_toInt
  have hhigh := k.toInt_le
  rw [show Int64.minValue.toInt = -9223372036854775808 from rfl] at hlow
  rw [show Int64.maxValue.toInt = 9223372036854775807 from rfl] at hhigh
  refine ⟨value?_integer (by omega) (Int.lt_of_le_of_lt hhigh (by decide)), ?_⟩
  rw [toValue, ofValue, ofNumber, int64?_toInt]

theorem stays_ofNumber {n : Number} (h : n.IsReadable) (hx : (ofNumber n).toValue.IsExact) :
    Stays d (ofNumber n) := by
  cases n with
  | integer i =>
      rw [ofNumber] at hx ⊢
      split
      · next k hk => exact stays_integer k
      · next hk =>
          rw [hk] at hx
          exact stays_float h.ofInt hx
  | double x => exact stays_float h hx

theorem stays_list {as : List Argument} (hd : d + 1 < maxDepth) (h : ∀ a ∈ as, a.Stays (d + 1)) :
    (list as).Stays d := by
  rw [Stays, toValue, toValues_eq]
  refine ⟨value?_array hd (List.forall_mem_map.2 fun a ha => (h a ha).1), ?_⟩
  rw [ofValue, ofValues_eq, List.map_map, list.injEq]
  exact (List.map_congr_left fun a ha => (h a ha).2).trans (List.map_id as)

theorem stays_map {es : List (String × Argument)} (hd : d + 1 < maxDepth)
    (hk : (Ordered.keys es).Nodup) (h : ∀ e ∈ es, e.2.Stays (d + 1)) : (map es).Stays d := by
  rw [Stays, toValue, toMembers_eq]
  refine ⟨value?_object hd (keys_entries es ▸ hk) (List.forall_mem_map.2 fun e he => (h e he).1), ?_⟩
  rw [ofValue, ofMembers_eq, entries, List.map_map, map.injEq]
  refine (List.map_congr_left fun e he => ?_).trans (List.map_id es)
  exact Prod.ext rfl (h e he).2

end Argument

/-- What is read as an argument is written as a value that is read as that argument. -/
theorem Json.Value.IsRead.stays {d : Nat} {v : Value} (h : v.IsRead d)
    (hx : (Argument.ofValue v).toValue.IsExact) : (Argument.ofValue v).Stays d := by
  induction h with
  | null | bool | string => exact ⟨rfl, rfl⟩
  | number h => exact Argument.stays_ofNumber (Literal.isReadable_of_number? h) hx
  | array hd _ ih =>
      rw [Argument.ofValue, Argument.toValue, Argument.toValues_eq, Argument.ofValues_eq,
        Value.isExact_array, List.map_map, List.forall_mem_map] at hx
      rw [Argument.ofValue, Argument.ofValues_eq]
      exact Argument.stays_list hd (List.forall_mem_map.2 fun v hv => ih v hv (hx v hv))
  | object hd hk _ ih =>
      rw [Argument.ofValue, Argument.toValue, Argument.toMembers_eq, Argument.ofMembers_eq,
        Value.isExact_object, entries, List.map_map, List.forall_mem_map] at hx
      rw [Argument.ofValue, Argument.ofMembers_eq]
      refine Argument.stays_map hd ?_ (List.forall_mem_map.2 fun m hm => ih m hm (hx m hm))
      rw [Ordered.keys, List.map_map]
      exact hk

variable {d : Nat}

theorem Argument.keeps : Keeps Argument.read Argument.toValue d := by
  refine ⟨fun {source n a} h hx => ?_⟩
  rw [read_eq] at h
  obtain ⟨v, hv, rfl⟩ := Option.map_eq_some_iff.1 h
  obtain ⟨hvalue, hsame⟩ := (n.isRead_of_value? hv).stays hx
  refine ⟨hvalue, fun source => ?_⟩
  rw [read_eq, hvalue, Option.map_some, hsame]

theorem Argument.eq_null_of_ofValue {v : Value} (h : ofValue v = null) : v = .null := by
  cases v with
  | null => rfl
  | number n =>
      rw [ofValue, ofNumber.eq_def] at h
      split at h
      · split at h <;> cases h
      · cases h
  | _ => cases h

theorem Json.Node.eq_null_of_value? {n : Node} (h : n.value? d = some .null) : n = .null := by
  cases n with
  | null => rfl
  | bool => cases h
  | number | string =>
      obtain ⟨_, -, he⟩ := Option.map_eq_some_iff.1 h
      cases he
  | array | object =>
      rw [Node.value?] at h
      split at h
      · obtain ⟨_, -, he⟩ := Option.map_eq_some_iff.1 h
        cases he
      · cases h

theorem Argument.keepsSome : KeepsSome Argument.read Argument.toValue d := by
  intro source n a h hn hx hnull
  have hread := (Argument.keeps.kept h hx).read source
  rw [hnull] at hread
  cases hread
  rw [read_eq] at h
  obtain ⟨v, hv, he⟩ := Option.map_eq_some_iff.1 h
  rw [eq_null_of_ofValue he] at hv
  exact hn (Node.eq_null_of_value? hv)

theorem keepsSome_of_ne {α : Type} {read : Reader α} {toJson : α → Value}
    (h : ∀ a, toJson a ≠ .null) : KeepsSome read toJson d := fun _ _ _ => h _

theorem BuiltinTool.get?_names (s : String) : Ordered.get? s names = ofName? s := by
  simp only [names, all, List.map_cons, List.map_nil, Ordered.get?, ofName?, List.find?_cons,
    List.find?_nil]
  repeat' split <;> simp_all

namespace ToolName

/-- The name is what its spelling is taken for. -/
def IsCanonical (n : ToolName) : Prop := parse n.text = n

theorem isCanonical_parse (s : String) : (parse s).IsCanonical := congrArg parse (text_parse s)

theorem read_toJson (n : ToolName) (source : Source) :
    ToolName.read ⟨source, d⟩ n.toJson.node = some (parse n.text) := by
  have hcopy : Place.copy ⟨source, d⟩ .trial n.toJson.node = some ⟨.trial, d⟩ :=
    Place.copy_of_value? (v := n.toJson) rfl
  have hname : Reader.name BuiltinTool.names ⟨.trial, d⟩ n.toJson.node =
      BuiltinTool.ofName? n.text := BuiltinTool.get?_names n.text
  rw [ToolName.read, hcopy]
  simp only [bind, Option.bind, hname]
  rw [parse]
  cases BuiltinTool.ofName? n.text <;> rfl

theorem kept {n : ToolName} (h : n.IsCanonical) : Kept ToolName.read ToolName.toJson d n :=
  ⟨rfl, fun source => (n.read_toJson source).trans (congrArg some h)⟩

theorem isCanonical_of_read {p : Place} {m : Node} {n : ToolName}
    (h : ToolName.read p m = some n) : n.IsCanonical := by
  obtain ⟨p', -, h⟩ := Option.bind_eq_some_iff.1 h
  split at h
  · next tool _ =>
      cases h
      rw [IsCanonical, parse, text, BuiltinTool.ofName?_name]
  · next hnone =>
      obtain ⟨s, hs, rfl⟩ := Option.map_eq_some_iff.1 h
      cases m with
      | string t =>
          cases hs
          have hs : BuiltinTool.ofName? s = none := BuiltinTool.get?_names s ▸ hnone
          rw [IsCanonical, parse, text, hs]
      | _ => cases hs

theorem keeps : Keeps ToolName.read ToolName.toJson d := ⟨fun h _ => kept (isCanonical_of_read h)⟩

end ToolName

theorem PromptFormat.kept (f : PromptFormat) : Kept PromptFormat.read PromptFormat.toJson d f :=
  ⟨rfl, fun _ => ofName?_name f⟩

def ToolParameter.columns (p : ToolParameter) : List (String × Option Value) :=
  [("param_type", some (.string p.type)), ("description", p.description.map .string),
    ("required", some (.bool p.required)), ("default", p.default.map Argument.toValue)]

theorem ToolParameter.toJson_eq (p : ToolParameter) :
    p.toJson = .object (present p.columns) := by
  obtain ⟨type, _ | description, required, _ | default⟩ := p <;> rfl

theorem ToolParameter.kept {p : ToolParameter} (hd : d + 1 < maxDepth)
    (h : ∀ a ∈ p.default, Kept Argument.read Argument.toValue (d + 1) a ∧ a.toValue ≠ .null) :
    Kept ToolParameter.read ToolParameter.toJson d p := by
  have h1 := (kept_string (d := d + 1) p.type).required "param_type"
  have h2 := Kept.optional (x := p.description) (d := d + 1)
    (fun s _ => ⟨kept_string s, nofun⟩) "description"
  have h3 := (kept_bool (d := d + 1) p.required).defaulted "required" true
  have h4 := Kept.optional h "default"
  refine Kept.record ["param_type", "description", "required", "default"] hd (by decide) rfl
    p.toJson_eq ?_ fun hn source => ?_
  · simp only [columns, List.forall_mem_cons]
    exact ⟨h1.value, h2.value, h3.value, h4.value, List.forall_mem_nil _⟩
  · simp only [bind, Option.bind, h1.get hn rfl, h2.get hn rfl, h3.get hn rfl, h4.get hn rfl]

theorem ToolParameter.keeps (hd : d + 1 < maxDepth) :
    Keeps ToolParameter.read ToolParameter.toJson d := by
  refine keeps_of_record ["param_type", "description", "required", "default"]
    fun {r a} hr h hx => ToolParameter.kept hd ?_
  rw [toJson_eq, Value.isExact_object, forall_mem_present] at hx
  simp only [columns, List.forall_mem_cons] at hx
  obtain ⟨type, -, h⟩ := Option.bind_eq_some_iff.1 h
  obtain ⟨description, -, h⟩ := Option.bind_eq_some_iff.1 h
  obtain ⟨required, -, h⟩ := Option.bind_eq_some_iff.1 h
  obtain ⟨default, hdefault, h⟩ := Option.bind_eq_some_iff.1 h
  cases h
  exact Argument.keeps.of_optional Argument.keepsSome hr hdefault hx.2.2.2.1

def ToolDefinition.columns (t : ToolDefinition) : List (String × Option Value) :=
  [("tool_name", some t.name.toJson), ("description", t.description.map .string),
    ("parameters", if t.parameters.isEmpty then none
      else some (.object (entries ToolParameter.toJson t.parameters)))]

theorem ToolDefinition.toJson_eq (t : ToolDefinition) :
    t.toJson = .object (present t.columns) := by
  obtain ⟨name, _ | description, _ | ⟨p, parameters⟩⟩ := t <;> rfl

theorem ToolDefinition.kept {t : ToolDefinition} (hd : d + 1 < maxDepth) (hn : t.name.IsCanonical)
    (h : Kept (Reader.dictionary ToolParameter.read)
      (fun es => .object (entries ToolParameter.toJson es)) (d + 1) t.parameters) :
    Kept ToolDefinition.read ToolDefinition.toJson d t := by
  have h1 := (ToolName.kept (d := d + 1) hn).required "tool_name"
  have h2 := Kept.optional (x := t.description) (d := d + 1)
    (fun s _ => ⟨kept_string s, nofun⟩) "description"
  have h3 := h.omitted "parameters" List.isEmpty_iff.1
  refine Kept.record ["tool_name", "description", "parameters"] hd (by decide) rfl t.toJson_eq ?_
    fun hn source => ?_
  · simp only [columns, List.forall_mem_cons]
    exact ⟨h1.value, h2.value, h3.value, List.forall_mem_nil _⟩
  · simp only [bind, Option.bind, h1.get hn rfl, h2.get hn rfl, h3.get hn rfl]

theorem ToolDefinition.keeps (hd : d + 3 < maxDepth) :
    Keeps ToolDefinition.read ToolDefinition.toJson d := by
  refine keeps_of_record ["tool_name", "description", "parameters"] fun {r a} hr h hx => ?_
  rw [toJson_eq, Value.isExact_object, forall_mem_present] at hx
  simp only [columns, List.forall_mem_cons] at hx
  obtain ⟨name, hname, h⟩ := Option.bind_eq_some_iff.1 h
  obtain ⟨description, -, h⟩ := Option.bind_eq_some_iff.1 h
  obtain ⟨parameters, hparameters, h⟩ := Option.bind_eq_some_iff.1 h
  cases h
  obtain ⟨n, -, hn⟩ := Option.bind_eq_some_iff.1 hname
  have hdepth : d + 2 < maxDepth := by omega
  exact ToolDefinition.kept (by omega) (ToolName.isCanonical_of_read hn)
    (((ToolParameter.keeps hd).dictionary hdepth).of_defaulted hr
      (Kept.noEntries hdepth) hparameters (isExact_of_ne_nil hx.2.2.1))

theorem Arguments.keeps (hd : d + 1 < maxDepth) :
    Keeps ToolCall.readArguments Arguments.toJson d := by
  refine ⟨fun {source n as} h hx => ?_⟩
  cases n with
  | object members =>
      have hmap := ToolCall.map_readArguments hd source members
      rw [h] at hmap
      have hk := Argument.keeps.kept hmap.symm hx
      refine ⟨hk.value, fun source => ?_⟩
      have hread := hk.read source
      rw [Argument.toValue, Value.node, ← ToolCall.map_readArguments hd] at hread
      obtain ⟨as', has, he⟩ := Option.map_eq_some_iff.1 hread
      cases he
      exact has
  | _ => cases h

def ToolCall.columns (c : ToolCall) : List (String × Option Value) :=
  [("call_id", some (.string c.id)), ("tool_name", some c.name.toJson),
    ("arguments", some (Arguments.toJson c.arguments))]

theorem ToolCall.toJson_eq (c : ToolCall) : c.toJson = .object (present c.columns) := rfl

theorem ToolCall.keeps (hd : d + 2 < maxDepth) : Keeps ToolCall.read ToolCall.toJson d := by
  rw [funext toJson_eq]
  refine keeps_record ["call_id", "tool_name", "arguments"] columns (by omega) (by decide)
    (fun _ => rfl) fun {r a} hr hn h hx => ?_
  obtain ⟨id, hid, h⟩ := Option.bind_eq_some_iff.1 h
  obtain ⟨name, hname, h⟩ := Option.bind_eq_some_iff.1 h
  obtain ⟨arguments, harguments, h⟩ := Option.bind_eq_some_iff.1 h
  cases h
  simp only [columns, List.forall_mem_cons] at hx
  have h1 := (keeps_string.of_required hr hid hx.1).required "call_id"
  have h2 := (ToolName.keeps.of_required hr hname hx.2.1).required "tool_name"
  have h3 := ((Arguments.keeps hd).of_required hr harguments hx.2.2.1).required "arguments"
  refine ⟨?_, fun source => ?_⟩
  · simp only [columns, List.forall_mem_cons]
    exact ⟨h1.value, h2.value, h3.value, List.forall_mem_nil _⟩
  · simp only [bind, Option.bind, h1.get hn rfl, h2.get hn rfl, h3.get hn rfl]

end ChatTurn
