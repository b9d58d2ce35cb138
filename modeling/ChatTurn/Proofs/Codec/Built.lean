import ChatTurn.Output.Decoder
import ChatTurn.Proofs.Codec.Request
import ChatTurn.Remote.Outbound

namespace ChatTurn

open Json

variable {d : Nat}

inductive ToolParameter.IsBuilt : ToolParameter → Prop
  | new (type : String) : IsBuilt { type }
  | describe {p : ToolParameter} (h : p.IsBuilt) (description : String) :
    IsBuilt (p.describe description)
  | optional {p : ToolParameter} (h : p.IsBuilt) : IsBuilt p.optional

inductive ToolDefinition.IsBuilt : ToolDefinition → Prop
  | builtin (tool : BuiltinTool) : IsBuilt (builtin tool)
  | custom (name description : String) : IsBuilt (custom name description)
  | addParameter {t : ToolDefinition} {p : ToolParameter} (ht : t.IsBuilt) (name : String)
    (hp : p.IsBuilt) : IsBuilt (t.addParameter name p)

inductive Message.IsBuilt : Message → Prop
  | system (text : String) : IsBuilt (system (.text text))
  | user (text : String) : IsBuilt (user (.text text))
  | toolResponse (callId : String) (tool : ToolName) (text : String) :
    IsBuilt (toolResponse callId tool (.text text))

inductive Request.IsBuilt : Request → Prop
  | new (model : String) {messages : List Message} (h : ∀ m ∈ messages, m.IsBuilt) :
    IsBuilt (new model messages)
  | streaming {q : Request} (h : q.IsBuilt) (stream : Bool) : IsBuilt (q.streaming stream)
  | withTools {q : Request} (h : q.IsBuilt) {tools : List ToolDefinition}
    (ht : ∀ t ∈ tools, t.IsBuilt) : IsBuilt (q.withTools tools)
  | withFormat {q : Request} (h : q.IsBuilt) (format : PromptFormat) : IsBuilt (q.withFormat format)
  | withSampling {q : Request} (h : q.IsBuilt) {sampling : Sampling}
    (hs : ∀ x ∈ sampling.numbers, x.isFinite = true) : IsBuilt (q.withSampling sampling)

theorem ToolParameter.IsBuilt.default {p : ToolParameter} (h : p.IsBuilt) : p.default = none := by
  induction h with
  | new => rfl
  | describe _ _ ih => exact ih
  | optional _ ih => exact ih

theorem ToolDefinition.IsBuilt.parameters {t : ToolDefinition} (h : t.IsBuilt) :
    (Ordered.keys t.parameters).Nodup ∧ ∀ e ∈ t.parameters, e.2.IsBuilt := by
  induction h with
  | builtin => exact ⟨List.nodup_nil, List.forall_mem_nil _⟩
  | custom => exact ⟨List.nodup_nil, List.forall_mem_nil _⟩
  | addParameter _ name hp ih =>
      refine ⟨Ordered.nodup_keys_put _ _ ih.1, fun e he => ?_⟩
      rcases Ordered.eq_or_mem_of_mem_put he with he | he
      · exact he ▸ hp
      · exact ih.2 e he

theorem Request.IsBuilt.messages {q : Request} (h : q.IsBuilt) : ∀ m ∈ q.messages, m.IsBuilt := by
  induction h with
  | new _ h => exact h
  | streaming _ _ ih | withTools _ _ ih | withFormat _ _ ih | withSampling _ _ ih => exact ih

theorem Request.IsBuilt.tools {q : Request} (h : q.IsBuilt) : ∀ t ∈ q.tools, t.IsBuilt := by
  induction h with
  | new => exact List.forall_mem_nil _
  | withTools _ h _ => exact h
  | streaming _ _ ih | withFormat _ _ ih | withSampling _ _ ih => exact ih

theorem Request.IsBuilt.isFinite {q : Request} (h : q.IsBuilt) :
    ∀ x ∈ q.sampling.numbers, x.isFinite = true := by
  induction h with
  | new => exact List.forall_mem_nil _
  | withSampling _ h _ => exact h
  | streaming _ _ ih | withTools _ _ ih | withFormat _ _ ih => exact ih

namespace ToolDefinition

def canonical (t : ToolDefinition) : ToolDefinition := { t with name := .parse t.name.text }

theorem toJson_canonical (t : ToolDefinition) : t.canonical.toJson = t.toJson := by
  rw [toJson, toJson, canonical, ToolName.toJson, ToolName.toJson, ToolName.text_parse]

theorem canonical_eq_iff {t : ToolDefinition} : t.canonical = t ↔ t.name.IsCanonical := by
  obtain ⟨name, description, parameters⟩ := t
  rw [canonical, mk.injEq]
  exact and_iff_left ⟨rfl, rfl⟩

end ToolDefinition

namespace Message

def toolNames : Message → List ToolName
  | toolResponse _ tool _ => [tool]
  | system _ | user _ | assistant _ => []

def canonical : Message → Message
  | toolResponse callId tool c => toolResponse callId (.parse tool.text) c
  | m => m

theorem toJson_canonical (m : Message) : m.canonical.toJson = m.toJson := by
  cases m with
  | toolResponse callId tool c =>
      rw [toJson, toJson, canonical, fields, fields, ToolName.toJson, ToolName.toJson,
        ToolName.text_parse]
      rfl
  | _ => rfl

theorem canonical_eq_iff {m : Message} : m.canonical = m ↔ ∀ n ∈ m.toolNames, n.IsCanonical := by
  cases m <;> simp [canonical, toolNames, ToolName.IsCanonical]

end Message

namespace Request

def toolNames (q : Request) : List ToolName :=
  q.tools.map (·.name) ++ q.messages.flatMap Message.toolNames

/-- Every tool under the name that its spelling is taken for. -/
def canonical (q : Request) : Request :=
  { q with messages := q.messages.map Message.canonical, tools := q.tools.map ToolDefinition.canonical }

theorem toJson_canonical (q : Request) : q.canonical.toJson = q.toJson := by
  have hmessages : (q.messages.map Message.canonical).map Message.toJson =
      q.messages.map Message.toJson := by
    rw [List.map_map]
    exact List.map_congr_left fun m _ => m.toJson_canonical
  have htools : (q.tools.map ToolDefinition.canonical).map ToolDefinition.toJson =
      q.tools.map ToolDefinition.toJson := by
    rw [List.map_map]
    exact List.map_congr_left fun t _ => t.toJson_canonical
  rw [toJson, toJson, canonical, hmessages, htools, List.isEmpty_map]

theorem canonical_eq_iff {q : Request} : q.canonical = q ↔ ∀ n ∈ q.toolNames, n.IsCanonical := by
  have hmap : ∀ {α : Type} (f : α → α) (as : List α), as.map f = as ↔ ∀ a ∈ as, f a = a := by
    intro α f as
    have h := List.map_inj_left (l := as) (f := f) (g := id)
    rw [List.map_id] at h
    exact h
  obtain ⟨model, messages, sampling, tools, format, stream⟩ := q
  simp only [canonical, mk.injEq, true_and, and_true, hmap, Message.canonical_eq_iff,
    ToolDefinition.canonical_eq_iff, toolNames, List.forall_mem_append, List.forall_mem_map,
    List.mem_flatMap]
  grind

end Request

theorem ToolParameter.IsBuilt.kept {p : ToolParameter} (h : p.IsBuilt) (hd : d + 1 < maxDepth) :
    Kept ToolParameter.read ToolParameter.toJson d p := by
  refine ToolParameter.kept hd ?_
  rw [h.default]
  exact nofun

theorem ToolDefinition.IsBuilt.kept_canonical {t : ToolDefinition} (h : t.IsBuilt)
    (hd : d + 3 < maxDepth) : Kept ToolDefinition.read ToolDefinition.toJson d t.canonical := by
  obtain ⟨hkeys, hparameters⟩ := h.parameters
  refine ToolDefinition.kept (by omega) (ToolName.isCanonical_parse _) ?_
  exact Kept.dictionary hkeys (fun e he => (hparameters e he).kept hd) (by omega)

theorem Content.kept_text (text : String) : Kept Content.read Content.toJson d (.text text) := by
  refine ⟨rfl, fun source => ?_⟩
  rw [read, Place.copy_of_value? (v := (Content.text text).toJson) rfl]
  rfl

theorem Message.IsBuilt.kept_canonical {m : Message} (h : m.IsBuilt) (hd : d + 1 < maxDepth) :
    Kept Message.read Message.toJson d m.canonical := by
  have hcontent : ∀ text, Kept readContent (fun c => .object [("content", c.toJson)]) d
      (.text text) := fun text => (Content.kept_text text).single hd "content"
  cases h with
  | system text => exact Message.kept hd ((hcontent text).map rfl)
  | user text => exact Message.kept hd ((hcontent text).map rfl)
  | toolResponse callId tool text =>
      exact Message.kept hd
        (kept_response hd (ToolName.isCanonical_parse _) (Content.kept_text text))

theorem Request.IsBuilt.kept_canonical {q : Request} (h : q.IsBuilt)
    (hx : ∀ x ∈ q.sampling.numbers, x.ReadsBack) (hd : d + 5 < maxDepth) :
    Kept Request.read Request.toJson d q.canonical := by
  refine Request.kept (by omega) ?_ ?_ ?_
  · refine Kept.list (List.forall_mem_map.2 fun m hm => ?_) (by omega)
    exact (h.messages m hm).kept_canonical (by omega)
  · refine Sampling.kept (by omega) fun x hm => ?_
    exact ⟨kept_double (h.isFinite x hm) (hx x hm), ofDouble_of_isFinite (h.isFinite x hm) ▸ nofun⟩
  · refine Kept.list (List.forall_mem_map.2 fun t ht => ?_) (by omega)
    exact (h.tools t ht).kept_canonical (by omega)

theorem ToolDefinition.isCanonical_of_read {p : Place} {n : Node} {t : ToolDefinition}
    (h : ToolDefinition.read p n = some t) : t.name.IsCanonical := by
  obtain ⟨r, -, h⟩ := Option.bind_eq_some_iff.1 h
  obtain ⟨name, hname, h⟩ := Option.bind_eq_some_iff.1 h
  obtain ⟨description, -, h⟩ := Option.bind_eq_some_iff.1 h
  obtain ⟨parameters, -, h⟩ := Option.bind_eq_some_iff.1 h
  cases h
  obtain ⟨m, -, hm⟩ := Option.bind_eq_some_iff.1 hname
  exact ToolName.isCanonical_of_read hm

theorem Message.isCanonical_of_read {p : Place} {n : Node} {m : Message}
    (h : Message.read p n = some m) : ∀ t ∈ m.toolNames, t.IsCanonical := by
  obtain ⟨⟨name, p, rest⟩, -, h⟩ := Option.bind_eq_some_iff.1 h
  obtain ⟨role, -, h⟩ := Option.bind_eq_some_iff.1 h
  cases role with
  | system | user | assistant =>
      obtain ⟨c, -, rfl⟩ := Option.map_eq_some_iff.1 h
      exact List.forall_mem_nil _
  | toolResponse =>
      obtain ⟨r, -, h⟩ := Option.bind_eq_some_iff.1 h
      obtain ⟨callId, -, h⟩ := Option.bind_eq_some_iff.1 h
      obtain ⟨tool, htool, h⟩ := Option.bind_eq_some_iff.1 h
      obtain ⟨content, -, h⟩ := Option.bind_eq_some_iff.1 h
      cases h
      obtain ⟨m, -, hm⟩ := Option.bind_eq_some_iff.1 htool
      exact List.forall_mem_singleton.2 (ToolName.isCanonical_of_read hm)

theorem Json.exists_of_list {α : Type} {read : Reader α} {p : Place} {n : Node} {as : List α}
    (h : Reader.list read p n = some as) : ∀ a ∈ as, ∃ p m, read p m = some a := by
  cases n with
  | array items =>
      obtain ⟨p, -, h⟩ := Option.bind_eq_some_iff.1 h
      intro a ha
      obtain ⟨m, -, hm⟩ := exists_of_mapM h a ha
      exact ⟨p, m, hm⟩
  | _ => cases h

theorem Request.isCanonical_of_read {p : Place} {n : Node} {q : Request}
    (h : Request.read p n = some q) : ∀ t ∈ q.toolNames, t.IsCanonical := by
  obtain ⟨r, -, h⟩ := Option.bind_eq_some_iff.1 h
  obtain ⟨model, -, h⟩ := Option.bind_eq_some_iff.1 h
  obtain ⟨messages, hmessages, h⟩ := Option.bind_eq_some_iff.1 h
  obtain ⟨sampling, -, h⟩ := Option.bind_eq_some_iff.1 h
  obtain ⟨tools, htools, h⟩ := Option.bind_eq_some_iff.1 h
  obtain ⟨format, -, h⟩ := Option.bind_eq_some_iff.1 h
  obtain ⟨stream, -, h⟩ := Option.bind_eq_some_iff.1 h
  cases h
  rw [toolNames, List.forall_mem_append]
  constructor
  · refine List.forall_mem_map.2 fun t ht => ?_
    rcases eq_or_of_defaulted htools with rfl | ⟨n, hn⟩
    · cases ht
    · obtain ⟨p, m, hm⟩ := exists_of_list hn t ht
      exact ToolDefinition.isCanonical_of_read hm
  · intro t ht
    obtain ⟨m, hm, ht⟩ := List.mem_flatMap.1 ht
    obtain ⟨n, -, hn⟩ := Option.bind_eq_some_iff.1 hmessages
    obtain ⟨p, n, hn⟩ := exists_of_list hn m hm
    exact Message.isCanonical_of_read hn t ht

theorem Json.readsBack_of_double {x : Double} {p : Place} (hx : x.isFinite = true)
    (h : Reader.double p (Value.ofDouble x).node = some x) : x.ReadsBack := by
  rw [ofDouble_of_isFinite hx] at h
  obtain ⟨m, hm, he⟩ := Option.map_eq_some_iff.1 h
  obtain ⟨y, rfl⟩ := (isDouble_literal x).exists_of_number? hm
  cases he
  exact Double.readsBack_iff.2 hm

theorem Sampling.readsBack_of_read {s : Sampling} {source : Source} (hd : d + 1 < maxDepth)
    (hs : ∀ x ∈ s.numbers, x.isFinite = true)
    (h : Sampling.read ⟨source, d⟩ s.toJson.node = some s) : ∀ x ∈ s.numbers, x.ReadsBack := by
  have hnames : s.columns.map Prod.fst =
      ["temperature", "top_p", "top_k", "max_tokens", "repetition_penalty"] := rfl
  have hn : (s.columns.map Prod.fst).Nodup := hnames ▸ by decide
  -- A number that was read from its own column was read from its own text.
  have hnumber : ∀ name x, Ordered.get? name s.columns = some (some (Value.ofDouble x)) →
      x.isFinite = true →
      (Record.written source (d + 1) (present s.columns)).optional name Reader.double =
        some (some x) → x.ReadsBack := by
    intro name x hc hx ho
    rw [Record.optional, Record.defaulted_written hn hc, option_of_ne_null] at ho
    · obtain ⟨y, hy, he⟩ := Option.map_eq_some_iff.1 ho
      cases he
      exact readsBack_of_double hx hy
    · intro hnull
      rw [ofDouble_of_isFinite hx] at hnull
      cases hnull
  rw [toJson_eq, read, Record.ofNode_present hd (by decide) hnames] at h
  simp only [bind, Option.bind_some] at h
  obtain ⟨temperature, htemperature, h⟩ := Option.bind_eq_some_iff.1 h
  obtain ⟨topP, htopP, h⟩ := Option.bind_eq_some_iff.1 h
  obtain ⟨topK, -, h⟩ := Option.bind_eq_some_iff.1 h
  obtain ⟨maxTokens, -, h⟩ := Option.bind_eq_some_iff.1 h
  obtain ⟨penalty, hpenalty, h⟩ := Option.bind_eq_some_iff.1 h
  intro x hx
  have hfinite := hs x hx
  cases h
  rcases mem_numbers.1 hx with hm | hm | hm
  · cases hm
    exact hnumber "temperature" x rfl hfinite htemperature
  · cases hm
    exact hnumber "top_p" x rfl hfinite htopP
  · cases hm
    exact hnumber "repetition_penalty" x rfl hfinite hpenalty

theorem Request.readsBack_of_read {q : Request} (hd : d + 2 < maxDepth)
    (hs : ∀ x ∈ q.sampling.numbers, x.isFinite = true)
    (h : Request.read ⟨.text, d⟩ q.toJson.node = some q) : ∀ x ∈ q.sampling.numbers, x.ReadsBack := by
  have hnames : q.columns.map Prod.fst =
      ["model", "messages", "sampling_params", "tools", "tool_prompt_format", "stream"] := rfl
  have hn : (q.columns.map Prod.fst).Nodup := hnames ▸ by decide
  rw [toJson_eq, read, Record.ofNode_present (by omega) (by decide) hnames] at h
  simp only [bind, Option.bind_some] at h
  obtain ⟨model, -, h⟩ := Option.bind_eq_some_iff.1 h
  obtain ⟨messages, -, h⟩ := Option.bind_eq_some_iff.1 h
  obtain ⟨sampling, hsampling, h⟩ := Option.bind_eq_some_iff.1 h
  obtain ⟨tools, -, h⟩ := Option.bind_eq_some_iff.1 h
  obtain ⟨format, -, h⟩ := Option.bind_eq_some_iff.1 h
  obtain ⟨stream, -, h⟩ := Option.bind_eq_some_iff.1 h
  cases h
  rw [Record.defaulted_written hn rfl] at hsampling
  exact Sampling.readsBack_of_read hd hs hsampling

namespace Request

theorem checkResponses_canonical (i : Nat) (made : List String) (ms : List Message) :
    checkResponses i made (ms.map Message.canonical) = checkResponses i made ms := by
  induction ms generalizing i made with
  | nil => rfl
  | cons m ms ih =>
      cases m <;> simp only [List.map_cons, Message.canonical, checkResponses, ih]

theorem checkMessages_canonical (ms : List Message) :
    checkMessages (ms.map Message.canonical) = checkMessages ms := by
  have hrole : ∀ m : Message, m.canonical.role = m.role := fun m => by cases m <;> rfl
  rw [checkMessages, checkMessages, List.getLast?_map]
  cases ms.getLast? with
  | none => rfl
  | some last => simp only [Option.map_some, hrole, checkResponses_canonical]

theorem checkTools_canonical (seen : List String) (ts : List ToolDefinition) :
    checkTools seen (ts.map ToolDefinition.canonical) = checkTools seen ts := by
  induction ts generalizing seen with
  | nil => rfl
  | cons t ts ih =>
      simp only [List.map_cons, checkTools, ToolDefinition.canonical, ToolName.text_parse]
      rw [← ih]

theorem validate_canonical (q : Request) : q.canonical.validate = q.validate := by
  have hformat : checkFormat q.canonical = checkFormat q := by
    obtain ⟨model, messages, sampling, _ | ⟨t, ts⟩, format, stream⟩ := q
    · rfl
    · exact checkTools_canonical [] (t :: ts)
  rw [validate, validate, hformat, canonical, checkMessages_canonical]

/-- Without parameters the two forms of a name differ in their schema. -/
theorem schema_canonical_iff {t : ToolDefinition} :
    Remote.schema t.canonical = Remote.schema t ↔ t.name.IsCanonical ∨ t.parameters ≠ [] := by
  obtain ⟨name, description, parameters⟩ := t
  cases parameters with
  | cons p ps => cases name <;> simp [ToolDefinition.canonical, Remote.schema]
  | nil =>
      cases name with
      | builtin tool =>
          simp [ToolDefinition.canonical, ToolName.IsCanonical, ToolName.parse, ToolName.text,
            BuiltinTool.ofName?_name]
      | custom s =>
          cases h : BuiltinTool.ofName? s <;>
            simp [ToolDefinition.canonical, ToolName.IsCanonical, ToolName.parse, ToolName.text, h,
              Remote.schema, Remote.objectSchema]

theorem ofRequest_canonical_iff {q : Request} {model : String} :
    Remote.Request.ofRequest q.canonical model = Remote.Request.ofRequest q model ↔
      ∀ t ∈ q.tools, t.name.IsCanonical ∨ t.parameters ≠ [] := by
  have hmessages : (q.messages.map Message.canonical).map Remote.Message.ofMessage =
      q.messages.map Remote.Message.ofMessage := by
    rw [List.map_map]
    exact List.map_congr_left fun m _ => by cases m <;> rfl
  have htool : ∀ t : ToolDefinition, Remote.Tool.ofDefinition t.canonical =
      Remote.Tool.ofDefinition t ↔ t.name.IsCanonical ∨ t.parameters ≠ [] := by
    intro t
    rw [← schema_canonical_iff]
    simp [Remote.Tool.ofDefinition, ToolDefinition.canonical, ToolName.text_parse]
  have htools : (q.tools.map ToolDefinition.canonical).map Remote.Tool.ofDefinition =
      q.tools.map Remote.Tool.ofDefinition ↔
        ∀ t ∈ q.tools, t.name.IsCanonical ∨ t.parameters ≠ [] := by
    rw [List.map_map, List.map_inj_left]
    exact forall₂_congr fun t _ => htool t
  rw [← htools, Remote.Request.ofRequest, Remote.Request.ofRequest, canonical, hmessages,
    List.isEmpty_map]
  cases q.tools <;> simp

theorem new_effectiveFormat_iff {q : Request} (h : q.tools ≠ []) :
    Decoder.new none = Decoder.new q.effectiveFormat ↔ q.format = some .functionTag := by
  rw [effectiveFormat, if_neg (by simpa using h)]
  cases q.format with
  | none => simp [Decoder.new, CallForm.ofFormat?]
  | some f => cases f <;> simp [Decoder.new, CallForm.ofFormat?]

/-- The decoder of a request depends on whether every tool passes for a built-in one. -/
theorem forRequest_canonical_iff {q : Request} :
    Decoder.forRequest q.canonical = Decoder.forRequest q ↔ q.format = some .functionTag ∨
      ((∃ t ∈ q.tools, t.name.isBuiltin = false) →
        ∃ t ∈ q.tools, (ToolName.parse t.name.text).isBuiltin = false) := by
  have hformat : q.canonical.effectiveFormat = q.effectiveFormat := by
    rw [effectiveFormat, effectiveFormat, canonical, List.isEmpty_map]
  have hany : (q.canonical.tools.any fun t => !t.name.isBuiltin) =
      q.tools.any fun t => !(ToolName.parse t.name.text).isBuiltin := by
    rw [canonical, List.any_map]
    rfl
  have hbuiltin : ∀ n : ToolName, (ToolName.parse n.text).isBuiltin = false → n.isBuiltin = false := by
    intro n hn
    cases n with
    | builtin tool =>
        rw [ToolName.parse, ToolName.text, BuiltinTool.ofName?_name] at hn
        exact hn
    | custom s => rfl
  rw [Decoder.forRequest, Decoder.forRequest, Decoder.formatOf, Decoder.formatOf, hformat, hany]
  -- No built-in tool becomes one of the caller's own, so only the last of those can be lost.
  by_cases hcustom : ∃ t ∈ q.tools, (ToolName.parse t.name.text).isBuiltin = false
  · have hown : ∃ t ∈ q.tools, t.name.isBuiltin = false :=
      hcustom.imp fun t ht => ⟨ht.1, hbuiltin _ ht.2⟩
    rw [if_pos (by simpa using hcustom), if_pos (by simpa using hown)]
    exact iff_of_true rfl (.inr fun _ => hcustom)
  · rw [if_neg (by simpa using hcustom)]
    by_cases hown : ∃ t ∈ q.tools, t.name.isBuiltin = false
    · rw [if_pos (by simpa using hown), new_effectiveFormat_iff]
      · simp only [hown, hcustom, imp_false, not_true_eq_false, or_false]
      · obtain ⟨t, ht, -⟩ := hown
        exact List.ne_nil_of_mem ht
    · rw [if_neg (by simpa using hown)]
      exact iff_of_true rfl (.inr fun h => absurd h hown)

/-- The request that is received where this one is sent. -/
def received (q : Request) : Option Request := decode? Request.read q.toJson.render

theorem isCanonical_of_received {q r : Request} (h : q.received = some r) :
    ∀ n ∈ r.toolNames, n.IsCanonical := by
  rw [received, decode?_render] at h
  exact isCanonical_of_read h

theorem IsBuilt.received_eq {q : Request} (h : q.IsBuilt) (hx : ∀ x ∈ q.sampling.numbers, x.ReadsBack) :
    q.received = some q.canonical := by
  rw [received, decode?_render, ← toJson_canonical]
  exact (h.kept_canonical hx (by decide)).read .text

theorem IsBuilt.readsBack_of_received {q : Request} (h : q.IsBuilt) (hq : q.received = some q) :
    ∀ x ∈ q.sampling.numbers, x.ReadsBack := by
  rw [received, decode?_render] at hq
  exact readsBack_of_read (by decide) h.isFinite hq

/-- A built request is received as it is exactly where each tool has the name that its spelling is
taken for, and each number is read from its own text. Otherwise, if the numbers are, it is received
with the names so taken: it is as valid as before, but a tool without parameters has another schema,
and the calls of its tools may be looked for in another form. -/
theorem received_iff {q : Request} (h : q.IsBuilt) :
    (q.received = some q ↔
      (∀ n ∈ q.toolNames, n.IsCanonical) ∧ ∀ x ∈ q.sampling.numbers, x.ReadsBack) ∧
    ((∀ x ∈ q.sampling.numbers, x.ReadsBack) → ∃ r, q.received = some r ∧
      r.validate = q.validate ∧
      (∀ model, Remote.Request.ofRequest r model = Remote.Request.ofRequest q model ↔
        ∀ t ∈ q.tools, t.name.IsCanonical ∨ t.parameters ≠ []) ∧
      (Decoder.forRequest r = Decoder.forRequest q ↔ q.format = some .functionTag ∨
        ((∃ t ∈ q.tools, t.name.isBuiltin = false) →
          ∃ t ∈ q.tools, (ToolName.parse t.name.text).isBuiltin = false))) := by
  refine ⟨⟨fun hq => ?_, fun ⟨hn, hx⟩ => ?_⟩, fun hx => ?_⟩
  · exact ⟨isCanonical_of_received hq, h.readsBack_of_received hq⟩
  · rw [h.received_eq hx, canonical_eq_iff.2 hn]
  · exact ⟨q.canonical, h.received_eq hx, q.validate_canonical, fun _ => ofRequest_canonical_iff,
      forRequest_canonical_iff⟩

def offer : Request :=
  (((Request.new "m" [.user (.text "hi"),
    .toolResponse "c" (.custom "f") (.text "1")]).withTools
      [.builtin .braveSearch, (ToolDefinition.custom "f" "d").addParameter "x"
        (({ type := "int" } : ToolParameter).describe "n").optional]).withFormat .pythonList).withSampling
          { temperature := some half }

theorem received_iff_offer : offer.IsBuilt ∧ offer.received = some offer := by
  have hbuilt : offer.IsBuilt := by
    refine .withSampling (.withFormat (.withTools (.new "m" ?_) ?_) .pythonList) ?_
    · simp only [List.forall_mem_cons]
      exact ⟨.user "hi", .toolResponse "c" _ "1", List.forall_mem_nil _⟩
    · simp only [List.forall_mem_cons]
      exact ⟨.builtin _, .addParameter (.custom "f" "d") "x" (.optional (.describe (.new "int") "n")),
        List.forall_mem_nil _⟩
    · exact List.forall_mem_singleton.2 (by decide +kernel)
  refine ⟨hbuilt, (received_iff hbuilt).1.2 ⟨?_, ?_⟩⟩
  · simp only [toolNames, ToolName.IsCanonical]
    decide
  · exact List.forall_mem_singleton.2 readsBack_half

/-- A tool of the caller's own that is spelled like a built-in one. -/
def twin : Request :=
  (Request.new "m" [.user (.text "hi")]).withTools [.custom "brave_search" "d"]

/-- The double next to one eleventh. -/
def eleventh : Double := ⟨0x3fb745d1745d1746⟩

def elevenths : Request :=
  (Request.new "m" [.user (.text "hi")]).withSampling { temperature := some eleventh }

theorem not_readsBack_eleventh : ¬ eleventh.ReadsBack := by
  have ht : Number.text (.double eleventh) = "0.09090909090909091".toList := by decide +kernel
  have hl : Number.literal (.double eleventh) =
      ⟨false, ['0'], some "09090909090909091".toList, none⟩ := by
    rw [Number.literal, ht]
    cbv
  have hs : scale (Double.ofNat 9090909090909091) (-17) ≠ some eleventh := by
    rw [scale, if_neg (by decide), if_pos (by decide)]
    decide +kernel
  rw [Double.readsBack_iff, hl]
  intro h
  obtain ⟨x, hx, he⟩ := Option.bind_eq_some_iff.1 h
  cases he
  exact hs hx

/-- A request with a tool of the caller's own that has the name of a built-in one is received with
the built-in one, which is sent on and whose calls are read in another way; a number that is not
read from its own text is received as another. -/
theorem not_received_twin :
    (twin.IsBuilt ∧ twin.received ≠ some twin ∧ ∃ r, twin.received = some r ∧
      Remote.Request.ofRequest r "m" ≠ Remote.Request.ofRequest twin "m" ∧
      Decoder.forRequest r ≠ Decoder.forRequest twin) ∧
    elevenths.IsBuilt ∧ elevenths.received ≠ some elevenths := by
  have hmessages : ∀ m ∈ [Message.user (.text "hi")], m.IsBuilt :=
    List.forall_mem_singleton.2 (.user "hi")
  have htwin : twin.IsBuilt :=
    .withTools (.new "m" hmessages) (List.forall_mem_singleton.2 (.custom "brave_search" "d"))
  have helevenths : elevenths.IsBuilt :=
    .withSampling (.new "m" hmessages) (List.forall_mem_singleton.2 (by decide +kernel))
  have hname : ¬ (ToolName.custom "brave_search").IsCanonical := by
    rw [ToolName.IsCanonical]
    decide
  refine ⟨⟨htwin, fun h => ?_, twin.canonical, htwin.received_eq (List.forall_mem_nil _), ?_, ?_⟩,
    helevenths, fun h => ?_⟩
  · exact hname (isCanonical_of_received h _ List.mem_cons_self)
  · rw [Ne, ofRequest_canonical_iff]
    exact fun h => (h _ List.mem_cons_self).elim hname (absurd rfl)
  · rw [Ne, forRequest_canonical_iff]
    decide
  · exact not_readsBack_eleventh (helevenths.readsBack_of_received h _ List.mem_cons_self)

end Request

end ChatTurn
