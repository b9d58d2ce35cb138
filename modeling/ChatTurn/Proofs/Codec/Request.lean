import ChatTurn.Codec.Request
import ChatTurn.Proofs.Codec.Message

namespace ChatTurn

open Json

variable {d : Nat}

theorem Sampling.kept_uint32 (k : UInt32) : Kept Reader.uint32 Sampling.ofUInt32 d k := by
  have hlow : (0 : Int) ≤ k.toNat := Int.natCast_nonneg _
  have hhigh : (k.toNat : Int) < UInt32.size := Int.ofNat_lt.2 k.toNat_lt
  have hnumber : (Number.literal (.integer k.toNat)).number? = some (.integer k.toNat) :=
    number?_integer (by omega) (Int.lt_trans hhigh (by decide))
  constructor
  · rw [ofUInt32, Value.node, Node.value?, hnumber]
    rfl
  · intro source
    rw [ofUInt32, Value.node, Reader.uint32, hnumber, Option.bind_some]
    simp only [hlow, hhigh, and_self, if_true]
    rw [Int.toNat_natCast, UInt32.ofNat_toNat]

def Sampling.numbers (s : Sampling) : List Double :=
  s.temperature.toList ++ s.topP.toList ++ s.repetitionPenalty.toList

def Sampling.columns (s : Sampling) : List (String × Option Value) :=
  [("temperature", s.temperature.map Value.ofDouble), ("top_p", s.topP.map Value.ofDouble),
    ("top_k", s.topK.map ofUInt32), ("max_tokens", s.maxTokens.map ofUInt32),
    ("repetition_penalty", s.repetitionPenalty.map Value.ofDouble)]

theorem Sampling.toJson_eq (s : Sampling) : s.toJson = .object (present s.columns) := by
  obtain ⟨_ | temperature, _ | topP, _ | topK, _ | maxTokens, _ | repetitionPenalty⟩ := s <;> rfl

theorem Sampling.mem_numbers {s : Sampling} {x : Double} :
    x ∈ s.numbers ↔ x ∈ s.temperature ∨ x ∈ s.topP ∨ x ∈ s.repetitionPenalty := by
  simp [numbers]

theorem Sampling.kept {s : Sampling} (hd : d + 1 < maxDepth) (h : ∀ x ∈ s.numbers,
    Kept Reader.double Value.ofDouble (d + 1) x ∧ Value.ofDouble x ≠ .null) :
    Kept Sampling.read Sampling.toJson d s := by
  have huint : ∀ o : Option UInt32, ∀ n ∈ o,
      Kept Reader.uint32 ofUInt32 (d + 1) n ∧ ofUInt32 n ≠ .null := fun o n _ =>
    ⟨kept_uint32 n, nofun⟩
  have h1 := Kept.optional (fun x hx => h x (mem_numbers.2 (.inl hx))) "temperature"
  have h2 := Kept.optional (fun x hx => h x (mem_numbers.2 (.inr (.inl hx)))) "top_p"
  have h3 := Kept.optional (huint s.topK) "top_k"
  have h4 := Kept.optional (huint s.maxTokens) "max_tokens"
  have h5 := Kept.optional (fun x hx => h x (mem_numbers.2 (.inr (.inr hx)))) "repetition_penalty"
  refine Kept.record ["temperature", "top_p", "top_k", "max_tokens", "repetition_penalty"] hd
    (by decide) rfl s.toJson_eq ?_ fun hn source => ?_
  · simp only [columns, List.forall_mem_cons]
    exact ⟨h1.value, h2.value, h3.value, h4.value, h5.value, List.forall_mem_nil _⟩
  · simp only [bind, Option.bind, h1.get hn rfl, h2.get hn rfl, h3.get hn rfl, h4.get hn rfl,
      h5.get hn rfl]

theorem Sampling.keeps (hd : d + 1 < maxDepth) : Keeps Sampling.read Sampling.toJson d := by
  refine keeps_of_record ["temperature", "top_p", "top_k", "max_tokens", "repetition_penalty"]
    fun {r a} hr h hx => Sampling.kept hd fun x hm => ?_
  rw [toJson_eq, Value.isExact_object, forall_mem_present] at hx
  simp only [columns, List.forall_mem_cons] at hx
  obtain ⟨temperature, htemperature, h⟩ := Option.bind_eq_some_iff.1 h
  obtain ⟨topP, htopP, h⟩ := Option.bind_eq_some_iff.1 h
  obtain ⟨topK, -, h⟩ := Option.bind_eq_some_iff.1 h
  obtain ⟨maxTokens, -, h⟩ := Option.bind_eq_some_iff.1 h
  obtain ⟨penalty, hpenalty, h⟩ := Option.bind_eq_some_iff.1 h
  cases h
  rcases mem_numbers.1 hm with hm | hm | hm
  · exact keeps_double.of_optional keepsSome_double hr htemperature hx.1 x hm
  · exact keeps_double.of_optional keepsSome_double hr htopP hx.2.1 x hm
  · exact keeps_double.of_optional keepsSome_double hr hpenalty hx.2.2.2.2.1 x hm

theorem Sampling.kept_default (hd : d + 1 < maxDepth) :
    Kept Sampling.read Sampling.toJson d {} := Sampling.kept hd (List.forall_mem_nil _)

def Request.columns (r : Request) : List (String × Option Value) :=
  [("model", some (.string r.model)),
    ("messages", some (.array (r.messages.map Message.toJson))),
    ("sampling_params", some r.sampling.toJson),
    ("tools", if r.tools.isEmpty then none
      else some (.array (r.tools.map ToolDefinition.toJson))),
    ("tool_prompt_format", r.format.map PromptFormat.toJson), ("stream", some (.bool r.stream))]

theorem Request.toJson_eq (r : Request) : r.toJson = .object (present r.columns) := by
  obtain ⟨model, messages, sampling, _ | ⟨t, tools⟩, _ | format, stream⟩ := r <;> rfl

theorem Request.kept {r : Request} (hd : d + 1 < maxDepth)
    (hm : Kept (Reader.list Message.read) (fun ms => .array (ms.map Message.toJson)) (d + 1) r.messages)
    (hs : Kept Sampling.read Sampling.toJson (d + 1) r.sampling)
    (ht : Kept (Reader.list ToolDefinition.read) (fun ts => .array (ts.map ToolDefinition.toJson))
      (d + 1) r.tools) : Kept Request.read Request.toJson d r := by
  have h1 := (kept_string (d := d + 1) r.model).required "model"
  have h2 := hm.required "messages"
  have h3 := hs.defaulted "sampling_params" {}
  have h4 := ht.omitted "tools" List.isEmpty_iff.1
  have h5 := Kept.optional (x := r.format) (d := d + 1)
    (fun f _ => ⟨PromptFormat.kept f, nofun⟩) "tool_prompt_format"
  have h6 := (kept_bool (d := d + 1) r.stream).defaulted "stream" false
  refine Kept.record
    ["model", "messages", "sampling_params", "tools", "tool_prompt_format", "stream"] hd (by decide)
    rfl r.toJson_eq ?_ fun hn source => ?_
  · simp only [columns, List.forall_mem_cons]
    exact ⟨h1.value, h2.value, h3.value, h4.value, h5.value, h6.value, List.forall_mem_nil _⟩
  · simp only [bind, Option.bind, h1.get hn rfl, h2.get hn rfl, h3.get hn rfl, h4.get hn rfl,
      h5.get hn rfl, h6.get hn rfl]

theorem Request.keeps (hd : d + 6 < maxDepth) : Keeps Request.read Request.toJson d := by
  refine keeps_of_record
    ["model", "messages", "sampling_params", "tools", "tool_prompt_format", "stream"]
    fun {r a} hr h hx => ?_
  rw [toJson_eq, Value.isExact_object, forall_mem_present] at hx
  simp only [columns, List.forall_mem_cons] at hx
  obtain ⟨model, -, h⟩ := Option.bind_eq_some_iff.1 h
  obtain ⟨messages, hmessages, h⟩ := Option.bind_eq_some_iff.1 h
  obtain ⟨sampling, hsampling, h⟩ := Option.bind_eq_some_iff.1 h
  obtain ⟨tools, htools, h⟩ := Option.bind_eq_some_iff.1 h
  obtain ⟨format, -, h⟩ := Option.bind_eq_some_iff.1 h
  obtain ⟨stream, -, h⟩ := Option.bind_eq_some_iff.1 h
  cases h
  have hdepth : d + 2 < maxDepth := by omega
  refine Request.kept (by omega) ?_ ?_ ?_
  · exact ((Message.keeps (d := d + 2) (by omega)).list hdepth).of_required hr hmessages hx.2.1
  · exact (Sampling.keeps hdepth).of_defaulted hr (Sampling.kept_default hdepth) hsampling
      fun _ => hx.2.2.1 _ rfl
  · exact ((ToolDefinition.keeps (d := d + 2) (by omega)).list hdepth).of_defaulted hr
      (Kept.nil hdepth) htools (isExact_of_ne_nil hx.2.2.2.1)

/-- Whatever text a value is read from, however it is spelled: the text that the value is written as
is read as that value again, if the doubles in it are. -/
def Json.IsFaithful {α : Type} (read : Reader α) (toJson : α → Value) : Prop :=
  ∀ (t : String) (a : α), decode? read t = some a → (toJson a).IsExact →
    decode? read (toJson a).render = some a

theorem Json.decode?_render {α : Type} (read : Reader α) (v : Value) :
    decode? read v.render = read {} v.node := by
  rw [decode?, Value.render, String.toList_ofList, parse?_write, Option.bind_some]

theorem Json.Keeps.isFaithful {α : Type} {read : Reader α} {toJson : α → Value}
    (h : Keeps read toJson 0) : IsFaithful read toJson := by
  intro t a ht hx
  obtain ⟨n, -, hn⟩ := Option.bind_eq_some_iff.1 ht
  rw [decode?_render]
  exact (h.kept hn hx).read .text

theorem isFaithful_codecs : IsFaithful Request.read Request.toJson ∧
    IsFaithful Message.read Message.toJson ∧ IsFaithful Event.read Event.toJson ∧
    IsFaithful Chunk.read Chunk.toJson ∧ IsFaithful ToolDefinition.read ToolDefinition.toJson :=
  ⟨(Request.keeps (by decide)).isFaithful, (Message.keeps (by decide)).isFaithful,
    (Event.keeps (by decide)).isFaithful, (Chunk.keeps (by decide)).isFaithful,
    (ToolDefinition.keeps (by decide)).isFaithful⟩

def half : Double := ⟨0x3fe0000000000000⟩

theorem scale_half : scale (Double.ofNat 5) (-1) = some half := by
  rw [scale, if_neg (by decide), if_pos (by decide)]
  decide +kernel

theorem number?_half {l : Literal}
    (h : l = ⟨false, ['5'], none, some (true, ['1'])⟩ ∨ l = ⟨false, ['0'], some ['5'], none⟩) :
    l.number? = some (.double half) := by
  have hscale : l.number? = (scale (Double.ofNat 5) (-1)).bind fun x => some (.double x) := by
    rcases h with rfl | rfl
    · simp [Json.Literal.number?, accumulate, Json.Literal.double?, Double.digitsValue]
      rfl
    · simp [Json.Literal.number?, accumulate, Json.Literal.double?]
      rfl
  rw [hscale, scale_half]
  rfl

theorem readsBack_half : half.ReadsBack := by
  have ht : Number.text (.double half) = ['0', '.', '5'] := by decide +kernel
  have hp : parse? ['0', '.', '5'] = some (.number ⟨false, ['0'], some ['5'], none⟩) := by cbv
  rw [Double.ReadsBack, ht, parseValue?, hp, Option.bind_some, Node.value?, number?_half (.inr rfl)]
  rfl

/-- A request whose keys stand in another order, one of them unknown, with a message and its
sampling parameters as arrays and with a number of another spelling. -/
def spelled : String :=
  "\x7b\"stream\":true,\"messages\":[[\"user\",\"hi\"]],\"model\":\"m\",\"sampling_params\":[5e-1]," ++
    "\"x\":null\x7d"

def spelledNode (l : Literal) : Node :=
  .object [(some "stream", .bool true),
    (some "messages", .array [.array [.string (some "user"), .string (some "hi")]]),
    (some "model", .string (some "m")), (some "sampling_params", .array [.number l]),
    (some "x", .null)]

def spelledRequest : Request :=
  { model := "m", messages := [.user (.text "hi")], sampling := { temperature := some half }
    stream := true }

theorem parse?_spelled :
    parse? spelled.toList = some (spelledNode ⟨false, ['5'], none, some (true, ['1'])⟩) := by
  cbv

theorem read_spelledNode {l : Literal} (h : l.number? = some (.double half)) :
    Request.read {} (spelledNode l) = some spelledRequest := by
  have ht : Reader.double ⟨.text, 2⟩ (.number l) = some half := by
    rw [Reader.double, h]
    rfl
  have hs : Sampling.read ⟨.text, 1⟩ (.array [.number l]) =
      ((Reader.double ⟨.text, 2⟩ (.number l)).map some).bind fun t =>
        some ⟨t, none, none, none, none⟩ := rfl
  have hr : Request.read {} (spelledNode l) =
      (Sampling.read ⟨.text, 1⟩ (.array [.number l])).bind fun s =>
        some ⟨"m", [.user (.text "hi")], s, [], none, true⟩ := rfl
  rw [hr, hs, ht]
  rfl

def spelledMessage : String :=
  "\x7b\"content\":[\x7b\"url\":\"u\",\"type\":\"image\"\x7d],\"role\":\"user\"\x7d"

def spelledEvent : String := "[\"progress\",\x7b\"text\":\"a\"\x7d]"

def spelledChunk : String :=
  "\x7b\"completion_message\":\x7b\"stop_reason\":\"end_of_turn\",\"content\":\"a\"\x7d\x7d"

def spelledTool : String :=
  "\x7b\"parameters\":\x7b\"a\":[\"str\"]\x7d," ++
    "\"tool_name\":\x7b\"brave_search\":null\x7d\x7d"

/-- The text is read as the value, and so is what the value is written as. -/
def Json.IsReadBack {α : Type} (read : Reader α) (toJson : α → Value) (t : String) (a : α) : Prop :=
  decode? read t = some a ∧ decode? read (toJson a).render = some a

theorem Json.IsFaithful.isReadBack {α : Type} {read : Reader α} {toJson : α → Value} {t : String}
    {a : α} (h : IsFaithful read toJson) (ht : decode? read t = some a)
    (hx : (toJson a).IsExact) : IsReadBack read toJson t a :=
  ⟨ht, h t a ht hx⟩

theorem isFaithful_codecs_spelled : IsReadBack Request.read Request.toJson spelled spelledRequest ∧
    IsReadBack Message.read Message.toJson spelledMessage (.user (.parts [.image "u"])) ∧
    IsReadBack Event.read Event.toJson spelledEvent ⟨.progress, .text "a", none⟩ ∧
    IsReadBack Chunk.read Chunk.toJson spelledChunk (.response ⟨"a", .endOfTurn, []⟩) ∧
    IsReadBack ToolDefinition.read ToolDefinition.toJson spelledTool
      ⟨.builtin .braveSearch, none, [("a", { type := "str" })]⟩ := by
  obtain ⟨hrequest, hmessage, hevent, hchunk, htool⟩ := isFaithful_codecs
  refine ⟨hrequest.isReadBack ?_ fun x hx => ?_, hmessage.isReadBack (by cbv) fun _ hx => ?_,
    hevent.isReadBack (by cbv) fun _ hx => ?_, hchunk.isReadBack (by cbv) fun _ hx => ?_,
    htool.isReadBack (by cbv) fun _ hx => ?_⟩
  · rw [decode?, parse?_spelled]
    exact read_spelledNode (number?_half (.inl rfl))
  · rw [List.mem_singleton.1 hx]
    exact readsBack_half
  -- The other texts hold no numbers.
  all_goals cases hx

end ChatTurn
