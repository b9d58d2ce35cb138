import ChatTurn.Codec.Event
import ChatTurn.Proofs.Codec.Tool

namespace ChatTurn

open Json

variable {d : Nat}

theorem StopReason.keeps : Keeps StopReason.read StopReason.toJson d := keeps_name ofName?_name

theorem EventKind.get?_names (k : EventKind) : Ordered.get? k.name names = some k := by
  cases k <;> decide

theorem ParseStatus.get?_names (s : ParseStatus) : Ordered.get? s.name names = some s := by
  cases s <;> decide

theorem CallPayload.keeps (hd : d + 2 < maxDepth) :
    Keeps CallPayload.read CallPayload.toJson d := by
  refine keeps_string.firstOf (f := text) (g := call) (ToolCall.keeps hd) (fun p n => ?_)
    (fun _ => rfl) (fun _ => rfl) fun _ _ => rfl
  refine Option.bind_congr fun p _ => ?_
  cases Reader.string p n <;> rfl

def CallDelta.columns (e : CallDelta) : List (String × Option Value) :=
  [("content", some e.payload.toJson), ("parse_status", some (.string e.status.name))]

theorem CallDelta.keeps (hd : d + 3 < maxDepth) : Keeps CallDelta.read CallDelta.toJson d := by
  refine keeps_record ["content", "parse_status"] columns (by omega) (by decide)
    (fun _ => rfl) fun {r a} hr hn h hx => ?_
  obtain ⟨payload, hpayload, h⟩ := Option.bind_eq_some_iff.1 h
  obtain ⟨status, hstatus, h⟩ := Option.bind_eq_some_iff.1 h
  cases h
  simp only [columns, List.forall_mem_cons] at hx
  have hname : Keeps (Reader.name ParseStatus.names) (fun s => .string s.name) (d + 1) :=
    keeps_name ParseStatus.get?_names
  have h1 := ((CallPayload.keeps hd).of_required hr hpayload hx.1).required "content"
  have h2 := (hname.of_required hr hstatus hx.2.1).required "parse_status"
  refine ⟨?_, fun source => ?_⟩
  · simp only [columns, List.forall_mem_cons]
    exact ⟨h1.value, h2.value, List.forall_mem_nil _⟩
  · simp only [bind, Option.bind, h1.get hn rfl, h2.get hn rfl]

theorem Delta.keeps (hd : d + 4 < maxDepth) : Keeps Delta.read Delta.toJson d := by
  refine ⟨fun {source n a} h hx => ?_⟩
  have hkept : (∃ s, a = .text s) ∨
      ∃ c, a = .toolCall c ∧ Kept CallDelta.read CallDelta.toJson (d + 1) c := by
    rw [read.eq_def] at h
    split at h
    · obtain ⟨p, hp, h⟩ := Option.bind_eq_some_iff.1 h
      cases Place.eq_of_enter hp
      split at h
      · obtain ⟨s, -, rfl⟩ := Option.map_eq_some_iff.1 h
        exact .inl ⟨s, rfl⟩
      · split at h
        · obtain ⟨c, hc, rfl⟩ := Option.map_eq_some_iff.1 h
          refine .inr ⟨c, rfl, (CallDelta.keeps hd).kept hc ?_⟩
          exact Value.isExact_object.1 hx _ List.mem_cons_self
        · cases h
    · cases h
  rcases hkept with ⟨s, rfl⟩ | ⟨c, rfl, hc⟩
  · refine ⟨value?_member (by omega) rfl, fun source => ?_⟩
    rw [toJson, Value.node, Value.memberNodes, Value.memberNodes, read,
      Place.enter_of_lt (by omega)]
    rfl
  · refine ⟨value?_member (by omega) hc.value, fun source => ?_⟩
    rw [toJson, Value.node, Value.memberNodes, Value.memberNodes, read,
      Place.enter_of_lt (by omega)]
    simp only [bind, Option.bind]
    rw [if_neg (by decide), if_true, hc.read]
    rfl

def Event.columns (e : Event) : List (String × Option Value) :=
  [("event_type", some (.string e.kind.name)), ("delta", some e.delta.toJson),
    ("stop_reason", e.stop.map StopReason.toJson)]

theorem Event.toJson_eq (e : Event) : e.toJson = .object (present e.columns) := by
  obtain ⟨kind, delta, _ | stop⟩ := e <;> rfl

theorem Event.keeps (hd : d + 5 < maxDepth) : Keeps Event.read Event.toJson d := by
  rw [funext toJson_eq]
  refine keeps_record ["event_type", "delta", "stop_reason"] columns (by omega) (by decide)
    (fun _ => rfl) fun {r a} hr hn h hx => ?_
  obtain ⟨kind, hkind, h⟩ := Option.bind_eq_some_iff.1 h
  obtain ⟨delta, hdelta, h⟩ := Option.bind_eq_some_iff.1 h
  obtain ⟨stop, hstop, h⟩ := Option.bind_eq_some_iff.1 h
  cases h
  simp only [columns, List.forall_mem_cons] at hx
  have hname : Keeps (Reader.name EventKind.names) (fun k => .string k.name) (d + 1) :=
    keeps_name EventKind.get?_names
  have h1 := (hname.of_required hr hkind hx.1).required "event_type"
  have h2 := ((Delta.keeps hd).of_required hr hdelta hx.2.1).required "delta"
  have h3 := Kept.optional
    (StopReason.keeps.of_optional (keepsSome_of_ne nofun) hr hstop hx.2.2.1) "stop_reason"
  refine ⟨?_, fun source => ?_⟩
  · simp only [columns, List.forall_mem_cons]
    exact ⟨h1.value, h2.value, h3.value, List.forall_mem_nil _⟩
  · simp only [bind, Option.bind, h1.get hn rfl, h2.get hn rfl, h3.get hn rfl]

end ChatTurn
