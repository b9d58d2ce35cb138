import ChatTurn.Proofs.Request.Validation
import ChatTurn.Remote.Outbound

namespace ChatTurn

def Role.remoteName : Role → String
  | system => "system"
  | user => "user"
  | assistant => "assistant"
  | toolResponse => "tool"

def Content.pieces : Content → List ContentPart
  | text t => [.text t]
  | parts ps => ps

/-- What a message says and shows, in order. An assistant that only makes calls says nothing. -/
def Message.pieces : Message → List ContentPart
  | system c | user c | toolResponse _ _ c => c.pieces
  | assistant m => if m.content.isEmpty then [] else [.text m.content]

/-- What a tool takes. A built-in tool declared without parameters takes its one text argument. -/
def ToolDefinition.takes (d : ToolDefinition) : Ordered ToolParameter :=
  match d.name, d.parameters with
  | .builtin tool, [] => [(tool.primaryParameter, { type := "string" })]
  | _, ps => ps

namespace Remote

def Part.piece : Part → ContentPart
  | text t => .text t
  | image url => .image url

def Content.pieces : Content → List ContentPart
  | text t => [.text t]
  | parts ps => ps.map Part.piece

def Message.pieces (w : Message) : List ContentPart := (w.content.map Content.pieces).getD []

def Message.madeIds (w : Message) : List String := (w.calls.getD []).map (·.id)

/-- The message that is sent has the role, the pieces and the ids of the other. -/
structure Corresponds (m : ChatTurn.Message) (w : Message) : Prop where
  role : w.role = m.role.remoteName
  pieces : w.pieces = m.pieces
  made : w.madeIds = m.madeIds
  answered : w.callId = m.answeredId?

def IsPropertyOf (p : String × ToolParameter) (q : String × Json.Value) : Prop :=
  q.1 = p.1 ∧ ∃ ms, q.2 = .object ms ∧
    Ordered.get? "type" ms = some (.string (schemaType p.2.type)) ∧
    Ordered.get? "description" ms = p.2.description.map .string ∧
    Ordered.get? "default" ms = p.2.default.map Argument.toValue

/-- An object whose properties are the parameters, with the names of those that are required. -/
def IsSchemaOf (ps : Ordered ToolParameter) (v : Json.Value) : Prop :=
  ∃ ms properties : List (String × Json.Value), v = .object ms ∧
    Ordered.get? "type" ms = some (.string "object") ∧
    Ordered.get? "properties" ms = some (.object properties) ∧
    List.Forall₂ IsPropertyOf ps properties ∧
    Ordered.get? "required" ms =
      some (.array ((Ordered.keys (ps.filter (·.2.required))).map .string))

/-- The tool that is sent has the name, the description and the parameters of the other. -/
structure Declares (d : ToolDefinition) (t : Tool) : Prop where
  type : t.type = "function"
  name : t.function.name = d.name.text
  description : t.function.description = d.description
  parameters : ∃ v ∈ t.function.parameters, IsSchemaOf d.takes v

/-- An object with properties, of which some are required, in their order. -/
def IsObjectSchema (v : Json.Value) : Prop :=
  ∃ (ms properties : List (String × Json.Value)) (required : List String), v = .object ms ∧
    Ordered.get? "type" ms = some (.string "object") ∧
    Ordered.get? "properties" ms = some (.object properties) ∧
    Ordered.get? "required" ms = some (.array (required.map .string)) ∧
    required.Sublist (Ordered.keys properties)

def AnswersListed (before : List Message) (w : Message) : Prop :=
  ∃ id, w.callId = some id ∧ ∃ a ∈ before, a.role = "assistant" ∧
    ∃ calls, a.calls = some calls ∧ ∃ c ∈ calls, c.id = id

structure Request.IsCoherent (q : Request) : Prop where
  last : ∃ w ∈ q.messages.getLast?, w.role = "user" ∨ w.role = "tool"
  answers : ∀ before w after, q.messages = before ++ w :: after → w.role = "tool" →
    AnswersListed before w
  named : ∀ ts ∈ q.tools, ∀ t ∈ ts, Request.isBlank t.function.name = false
  distinct : ∀ ts ∈ q.tools, (ts.map (·.function.name)).Nodup
  schemas : ∀ ts ∈ q.tools, ∀ t ∈ ts, ∃ v ∈ t.function.parameters, IsObjectSchema v

variable {r : ChatTurn.Request} {ms : List ChatTurn.Message} {before after : List Message}
  {w : Message} {ts : List Tool} {t : Tool}

theorem forall₂_map {α β : Type} {R : α → β → Prop} {f : α → β} (h : ∀ a, R a (f a))
    (as : List α) : List.Forall₂ R as (as.map f) :=
  List.forall₂_map_right_iff.2 (List.forall₂_same.2 fun a _ => h a)

theorem pieces_ofContent (c : ChatTurn.Content) : (Content.ofContent c).pieces = c.pieces := by
  cases c with
  | text s => rfl
  | parts ps =>
      rw [Content.ofContent, Content.pieces, List.map_map]
      refine (List.map_congr_left fun p _ => ?_).trans (List.map_id ps)
      cases p <;> rfl

theorem corresponds_ofMessage (m : ChatTurn.Message) : Corresponds m (.ofMessage m) := by
  cases m with
  | system c => exact ⟨rfl, pieces_ofContent c, rfl, rfl⟩
  | user c => exact ⟨rfl, pieces_ofContent c, rfl, rfl⟩
  | toolResponse callId tool c => exact ⟨rfl, pieces_ofContent c, rfl, rfl⟩
  | assistant m =>
      refine ⟨rfl, ?_, ?_, rfl⟩
      · simp only [Message.ofMessage, Message.pieces, ChatTurn.Message.pieces]
        by_cases hc : m.content.isEmpty = true
        · simp only [if_pos hc, Option.map_none, Option.getD_none]
        · simp only [if_neg hc, Option.map_some, Option.getD_some]
          rfl
      · simp only [Message.ofMessage, Message.madeIds, ChatTurn.Message.madeIds]
        cases m.calls with
        | nil => rfl
        | cons c cs => simp [Call.ofCall]

namespace Corresponds

variable {m : ChatTurn.Message}

theorem role_eq_tool_iff (h : Corresponds m w) :
    w.role = "tool" ↔ ∃ id, m.answeredId? = some id := by
  rw [h.role]
  cases m <;> simp [ChatTurn.Message.role, Role.remoteName, ChatTurn.Message.answeredId?]

theorem lists {id : String} (h : Corresponds m w) (hid : id ∈ m.madeIds) :
    w.role = "assistant" ∧ ∃ calls, w.calls = some calls ∧ ∃ c ∈ calls, c.id = id := by
  have hrole : w.role = "assistant" := by
    cases m with
    | assistant m => exact h.role
    | system | user | toolResponse => cases hid
  rw [← h.made, Message.madeIds, List.mem_map] at hid
  obtain ⟨c, hc, rfl⟩ := hid
  cases hcalls : w.calls with
  | none =>
      rw [hcalls] at hc
      cases hc
  | some calls =>
      rw [hcalls] at hc
      exact ⟨hrole, calls, rfl, c, hc, rfl⟩

end Corresponds

theorem answersListed_of_answersCalls (h : Request.AnswersCalls [] ms)
    (he : ms.map Message.ofMessage = before ++ w :: after) (hw : w.role = "tool") :
    AnswersListed before w := by
  obtain ⟨bs, rest, rfl, rfl, hrest⟩ := List.map_eq_append_iff.1 he
  obtain ⟨m, as, rfl, rfl, rfl⟩ := List.map_eq_cons_iff.1 hrest
  have hm := corresponds_ofMessage m
  obtain ⟨id, hid⟩ := hm.role_eq_tool_iff.1 hw
  have hmade := h bs m as rfl id hid
  rw [List.nil_append, List.mem_flatMap] at hmade
  obtain ⟨a, ha, hida⟩ := hmade
  refine ⟨id, hm.answered.trans hid, .ofMessage a, List.mem_map_of_mem ha, ?_⟩
  exact (corresponds_ofMessage a).lists hida

theorem schema_eq (d : ToolDefinition) :
    schema d = objectSchema (d.takes.map fun (k, p) => (k, parameterSchema p))
      (Ordered.keys (d.takes.filter (·.2.required))) := by
  obtain ⟨name, description, ps⟩ := d
  cases name with
  | custom name => rfl
  | builtin tool => cases ps <;> rfl

theorem isPropertyOf_parameterSchema (p : String × ToolParameter) :
    IsPropertyOf p (p.1, parameterSchema p.2) := by
  obtain ⟨k, type, description, required, default⟩ := p
  refine ⟨rfl, _, rfl, rfl, ?_, ?_⟩
  · cases description <;> cases default <;> rfl
  · cases description <;> cases default <;> rfl

theorem isSchemaOf_schema (d : ToolDefinition) : IsSchemaOf d.takes (schema d) := by
  rw [schema_eq]
  exact ⟨_, _, rfl, rfl, rfl, forall₂_map isPropertyOf_parameterSchema _, rfl⟩

theorem declares_ofDefinition (d : ToolDefinition) : Declares d (.ofDefinition d) :=
  ⟨rfl, rfl, rfl, schema d, rfl, isSchemaOf_schema d⟩

theorem keys_of_properties {ps : Ordered ToolParameter} {properties : List (String × Json.Value)}
    (h : List.Forall₂ IsPropertyOf ps properties) : Ordered.keys properties = Ordered.keys ps := by
  induction h with
  | nil => rfl
  | cons hp _ ih => exact congrArg₂ List.cons hp.1 ih

theorem IsSchemaOf.isObjectSchema {ps : Ordered ToolParameter} {v : Json.Value}
    (h : IsSchemaOf ps v) : IsObjectSchema v := by
  obtain ⟨ms, properties, rfl, htype, hproperties, hps, hrequired⟩ := h
  refine ⟨ms, properties, _, rfl, htype, hproperties, hrequired, ?_⟩
  rw [keys_of_properties hps]
  exact List.filter_sublist.map Prod.fst

theorem toolsSent_eq (r : ChatTurn.Request) (model : String) :
    (Request.ofRequest r model).tools.getD [] = r.tools.map Tool.ofDefinition := by
  rw [Request.ofRequest]
  cases r.tools <;> rfl

theorem tools_ofRequest {model : String} (h : ts ∈ (Request.ofRequest r model).tools) :
    ts = r.tools.map Tool.ofDefinition := by
  rw [← toolsSent_eq r model, Option.mem_def.1 h, Option.getD_some]

theorem declares_tools (r : ChatTurn.Request) (model : String) :
    List.Forall₂ Declares r.tools ((Request.ofRequest r model).tools.getD []) := by
  rw [toolsSent_eq]
  exact forall₂_map declares_ofDefinition r.tools

/-- A valid request is sent with all of its messages and tools, and what is sent is as coherent as
it was. -/
theorem ofRequest_of_validate (h : r.validate = .ok ()) (model : String) :
    List.Forall₂ Corresponds r.messages (Request.ofRequest r model).messages ∧
      List.Forall₂ Declares r.tools ((Request.ofRequest r model).tools.getD []) ∧
      (Request.ofRequest r model).IsCoherent ∧
      ((Request.ofRequest r model).tools.isSome ↔ r.tools ≠ []) := by
  obtain ⟨⟨last, hlast, hrole⟩, hanswers, hnamed, hdistinct⟩ := Request.of_validate h
  refine ⟨?_, declares_tools r model, ⟨?_, ?_, ?_, ?_, ?_⟩, ?_⟩
  · exact forall₂_map corresponds_ofMessage r.messages
  · refine ⟨.ofMessage last, ?_, ?_⟩
    · rw [Request.ofRequest, List.getLast?_map, Option.mem_def.1 hlast]
      rfl
    · rw [(corresponds_ofMessage last).role]
      rcases hrole with hr | hr
      · exact .inl (hr ▸ rfl)
      · exact .inr (hr ▸ rfl)
  · exact fun before w after he hw => answersListed_of_answersCalls hanswers he hw
  · intro ts hts t ht
    obtain rfl := tools_ofRequest hts
    obtain ⟨d, hd, rfl⟩ := List.mem_map.1 ht
    exact (hnamed d hd).1
  · intro ts hts
    obtain rfl := tools_ofRequest hts
    rw [List.map_map]
    exact hdistinct
  · intro ts hts t ht
    obtain rfl := tools_ofRequest hts
    obtain ⟨d, -, rfl⟩ := List.mem_map.1 ht
    exact ⟨schema d, rfl, (isSchemaOf_schema d).isObjectSchema⟩
  · rw [Request.ofRequest]
    cases r.tools <;> simp

/-- A turn with a picture, a call and its answer, and one tool of each kind. -/
def answered : ChatTurn.Request :=
  { model := "m"
    messages := [.system (.text "Be brief."), .user (.parts [.text "What is this?", .image "u"]),
      .assistant ⟨"", .endOfMessage, [⟨⟨.custom "look", []⟩, "a"⟩]⟩,
      .toolResponse "a" (.custom "look") (.text "a cat")]
    tools := [⟨.custom "look", none,
        [("depth", ⟨"int", none, false, none⟩), ("at", { type := "str" })]⟩,
      .builtin .braveSearch] }

theorem ofRequest_of_validate_answered : answered.validate = .ok () ∧
    List.Forall₂ Corresponds answered.messages (Request.ofRequest answered "n").messages ∧
      List.Forall₂ Declares answered.tools ((Request.ofRequest answered "n").tools.getD []) ∧
      (Request.ofRequest answered "n").IsCoherent ∧
      ((Request.ofRequest answered "n").tools.isSome ↔ answered.tools ≠ []) := by
  have hv : answered.validate = .ok () := by decide +kernel
  exact ⟨hv, ofRequest_of_validate hv "n"⟩

end Remote

end ChatTurn
