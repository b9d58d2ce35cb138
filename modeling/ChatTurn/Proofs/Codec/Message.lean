import ChatTurn.Codec.Message
import ChatTurn.Proofs.Codec.Event

namespace ChatTurn

open Json

variable {d : Nat}

theorem ContentPart.kept (a : ContentPart) (hd : d + 1 < maxDepth) :
    Kept ContentPart.read ContentPart.toJson d a := by
  have hstring : ∀ name s, Kept (fun p n =>
        (Record.ofNode [name] p n).bind (·.required name Reader.string))
      (fun s => .object [(name, .string s)]) d s := fun name s =>
    (show Kept Reader.string Value.string (d + 1) s from ⟨rfl, fun _ => rfl⟩).single hd name
  cases a with
  | text s =>
      have hk := hstring "text" s
      refine ⟨value?_cons hk.value (by simp [Ordered.keys]) rfl, fun source => ?_⟩
      obtain ⟨r, hr, hs⟩ := Option.bind_eq_some_iff.1 (hk.read .tagged)
      rw [read, toJson, untag_object hd (by decide) (by simp [Ordered.keys]) hk.value]
      simp only [bind, Option.bind, if_true, hr, hs, Option.map_some]
  | image url =>
      have hk := hstring "url" url
      refine ⟨value?_cons hk.value (by simp [Ordered.keys]) rfl, fun source => ?_⟩
      obtain ⟨r, hr, hs⟩ := Option.bind_eq_some_iff.1 (hk.read .tagged)
      rw [read, toJson, untag_object hd (by decide) (by simp [Ordered.keys]) hk.value]
      simp only [bind, Option.bind, show ("image" = "text") = False from by decide, if_false, hr, hs,
        Option.map_some]

theorem ContentPart.keeps (hd : d + 1 < maxDepth) : Keeps ContentPart.read ContentPart.toJson d :=
  ⟨fun _ _ => kept _ hd⟩

theorem Content.keeps (hd : d + 2 < maxDepth) : Keeps Content.read Content.toJson d := by
  have hparts := (ContentPart.keeps hd).list (show d + 1 < maxDepth by omega)
  refine keeps_string.firstOf (f := text) (g := parts) hparts (fun p n => ?_) (fun _ => rfl)
    (fun _ => rfl) fun _ _ => rfl
  refine Option.bind_congr fun p _ => ?_
  cases Reader.string p n <;> rfl

namespace Message

def columns : Message → List (String × Option Value)
  | system c | user c => [("content", some c.toJson)]
  | assistant m => [("content", some (.string m.content)), ("stop_reason", some m.stop.toJson),
      ("tool_calls", if m.calls.isEmpty then none else some (.array (m.calls.map ToolCall.toJson)))]
  | toolResponse callId tool c =>
    [("call_id", some (.string callId)), ("tool_name", some tool.toJson),
      ("content", some c.toJson)]

theorem toJson_eq (m : Message) :
    .object m.fields = Value.object (present m.columns) := by
  cases m with
  | system | user | toolResponse => rfl
  | assistant m =>
      obtain ⟨content, stop, _ | ⟨c, calls⟩⟩ := m <;> rfl

theorem keeps_readContent (hd : d + 3 < maxDepth) :
    Keeps readContent (fun c => .object [("content", c.toJson)]) d :=
  (Content.keeps hd).single (by omega) "content"

end Message

theorem Completion.keeps (hd : d + 4 < maxDepth) : Keeps Completion.read Completion.toJson d := by
  rw [show Completion.toJson = fun m => .object (present (Message.assistant m).columns) from
    funext fun m => Message.toJson_eq (.assistant m)]
  refine keeps_record ["content", "stop_reason", "tool_calls"] (fun m => (Message.assistant m).columns)
    (by omega) (by decide) (fun _ => rfl) fun {r a} hr hn h hx => ?_
  obtain ⟨content, hcontent, h⟩ := Option.bind_eq_some_iff.1 h
  obtain ⟨stop, hstop, h⟩ := Option.bind_eq_some_iff.1 h
  obtain ⟨calls, hcalls, h⟩ := Option.bind_eq_some_iff.1 h
  cases h
  simp only [Message.columns, List.forall_mem_cons] at hx
  have hdepth : d + 2 < maxDepth := by omega
  have hlist := ((ToolCall.keeps hd).list hdepth).of_defaulted hr (Kept.nil hdepth) hcalls
    (isExact_of_ne_nil hx.2.2.1)
  have h1 := (keeps_string.of_required hr hcontent hx.1).required "content"
  have h2 := (StopReason.keeps.of_required hr hstop hx.2.1).required "stop_reason"
  have h3 := hlist.omitted "tool_calls" List.isEmpty_iff.1
  refine ⟨?_, fun source => ?_⟩
  · simp only [Message.columns, List.forall_mem_cons]
    exact ⟨h1.value, h2.value, h3.value, List.forall_mem_nil _⟩
  · simp only [bind, Option.bind, h1.get hn rfl, h2.get hn rfl, h3.get hn rfl]

namespace Message

theorem kept_response {callId : String} {tool : ToolName} {c : Content} (hd : d + 1 < maxDepth)
    (ht : tool.IsCanonical) (hc : Kept Content.read Content.toJson (d + 1) c) :
    Kept readResponse (fun m => .object m.fields) d (toolResponse callId tool c) := by
  have h1 := (kept_string (d := d + 1) callId).required "call_id"
  have h2 := (ToolName.kept (d := d + 1) ht).required "tool_name"
  have h3 := hc.required "content"
  refine Kept.record ["call_id", "tool_name", "content"] hd (by decide) rfl
    (toolResponse callId tool c).toJson_eq ?_ fun hn source => ?_
  · simp only [columns, List.forall_mem_cons]
    exact ⟨h1.value, h2.value, h3.value, List.forall_mem_nil _⟩
  · simp only [bind, Option.bind, h1.get hn rfl, h2.get hn rfl, h3.get hn rfl]

theorem keeps_readResponse (hd : d + 3 < maxDepth) :
    Keeps readResponse (fun m => .object m.fields) d := by
  refine keeps_of_record ["call_id", "tool_name", "content"] fun {r a} hr h hx => ?_
  rw [toJson_eq, Value.isExact_object, forall_mem_present] at hx
  obtain ⟨callId, -, h⟩ := Option.bind_eq_some_iff.1 h
  obtain ⟨tool, htool, h⟩ := Option.bind_eq_some_iff.1 h
  obtain ⟨content, hcontent, h⟩ := Option.bind_eq_some_iff.1 h
  cases h
  simp only [columns, List.forall_mem_cons] at hx
  obtain ⟨n, -, hn⟩ := Option.bind_eq_some_iff.1 htool
  exact kept_response (by omega) (ToolName.isCanonical_of_read hn)
    ((Content.keeps hd).of_required hr hcontent hx.2.2.1)

theorem keeps_readAs (role : Role) (hd : d + 4 < maxDepth) :
    Keeps (readAs role) (fun m => .object m.fields) d := by
  have hcontent : d + 3 < maxDepth := by omega
  cases role with
  | system => exact (keeps_readContent hcontent).map fun _ => rfl
  | user => exact (keeps_readContent hcontent).map fun _ => rfl
  | assistant => exact (Completion.keeps hd).map fun _ => rfl
  | toolResponse => exact keeps_readResponse hcontent

theorem role_of_readAs {role : Role} {p : Place} {n : Node} {m : Message}
    (h : readAs role p n = some m) : m.role = role := by
  cases role with
  | system | user | assistant =>
      obtain ⟨_, -, rfl⟩ := Option.map_eq_some_iff.1 h
      rfl
  | toolResponse =>
      obtain ⟨_, -, h⟩ := Option.bind_eq_some_iff.1 h
      obtain ⟨_, -, h⟩ := Option.bind_eq_some_iff.1 h
      obtain ⟨_, -, h⟩ := Option.bind_eq_some_iff.1 h
      obtain ⟨_, -, h⟩ := Option.bind_eq_some_iff.1 h
      cases h
      rfl

theorem role_not_mem_keys (m : Message) : "role" ∉ Ordered.keys m.fields := by
  cases m with
  | system | user | toolResponse => simp [fields, Ordered.keys]
  | assistant m =>
      obtain ⟨content, stop, _ | ⟨c, calls⟩⟩ := m <;> simp [fields, Completion.fields, Ordered.keys]

theorem kept {m : Message} (hd : d + 1 < maxDepth)
    (h : Kept (readAs m.role) (fun m => .object m.fields) d m) :
    Kept Message.read Message.toJson d m := by
  refine ⟨value?_cons h.value m.role_not_mem_keys rfl, fun source => ?_⟩
  have hname : m.role.name ∈ Role.names.map Prod.fst ∧
      Ordered.get? m.role.name Role.names = some m.role := by
    cases m.role <;> decide
  rw [read, toJson, untag_object hd hname.1 m.role_not_mem_keys h.value]
  simp only [bind, Option.bind, hname.2, h.read]

theorem keeps (hd : d + 4 < maxDepth) : Keeps Message.read Message.toJson d := by
  refine ⟨fun {source n m} h hx => Message.kept (by omega) ?_⟩
  obtain ⟨⟨name, p, rest⟩, hu, h⟩ := Option.bind_eq_some_iff.1 h
  obtain ⟨role, hrole, h⟩ := Option.bind_eq_some_iff.1 h
  cases place_of_untag hu
  obtain rfl := role_of_readAs h
  rw [toJson, Value.isExact_object, List.forall_mem_cons, ← Value.isExact_object] at hx
  exact (keeps_readAs m.role hd).kept h hx.2

end Message

namespace Chunk

theorem keeps_readEvent (hd : d + 6 < maxDepth) :
    Keeps readEvent (fun e => .object [("event", e.toJson)]) d :=
  (Event.keeps hd).single (by omega) "event"

theorem keeps_readResponse (hd : d + 5 < maxDepth) :
    Keeps readResponse (fun m => .object [("completion_message", m.toJson)]) d :=
  (Completion.keeps hd).single (by omega) "completion_message"

/-- A whole message is not taken for an event. -/
theorem readEvent_response (m : Completion) (source : Source) :
    readEvent ⟨source, d⟩ (response m).toJson.node = none := by
  rw [readEvent, toJson, Value.node, Value.memberNodes, Value.memberNodes, Record.ofNode]
  cases Place.enter ⟨source, d⟩ <;> rfl

theorem keeps (hd : d + 6 < maxDepth) : Keeps Chunk.read Chunk.toJson d := by
  have hresponse := keeps_readResponse (show d + 5 < maxDepth by omega)
  refine (keeps_readEvent hd).firstOf (f := event) (g := response) hresponse (fun p n => ?_)
    (fun _ => rfl) (fun _ => rfl) fun _ _ => readEvent_response _ _
  refine Option.bind_congr fun p _ => ?_
  cases readEvent p n <;> rfl

end Chunk

end ChatTurn
