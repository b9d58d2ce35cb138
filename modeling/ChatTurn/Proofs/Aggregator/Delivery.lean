import ChatTurn.Proofs.Aggregator.Drain
import ChatTurn.Proofs.Tool.FunctionTag

namespace ChatTurn

def IdSupply.strokes : IdSupply := fun n => String.ofList (List.replicate n '1')

theorem IdSupply.strokes_injective : Function.Injective strokes := by
  intro m n h
  have hl := congrArg List.length (String.ofList_inj.1 h)
  rwa [List.length_replicate, List.length_replicate] at hl

theorem map_toInvocation_numbered (ids : IdSupply) (n : Nat) (is : List Invocation) :
    (numbered ids n is).map (·.toInvocation) = is := by
  induction is generalizing n with
  | nil => rfl
  | cons i is ih => rw [numbered, List.map_cons, ih]; rfl

theorem map_id_numbered (ids : IdSupply) (n : Nat) (is : List Invocation) :
    (numbered ids n is).map (·.id) = (List.range' n is.length).map ids := by
  induction is generalizing n with
  | nil => rfl
  | cons i is ih => rw [numbered, List.map_cons, ih]; rfl

theorem nodup_numbered {ids : IdSupply} (hids : Function.Injective ids) (n : Nat)
    (is : List Invocation) : ((numbered ids n is).map (·.id)).Nodup := by
  rw [map_id_numbered]
  exact List.Pairwise.map ids (fun m k hne he => hne (hids he)) List.nodup_range'

theorem numbered_eq_nil_iff {ids : IdSupply} {n : Nat} {is : List Invocation} :
    numbered ids n is = [] ↔ is = [] := by
  cases is <;> simp [numbered]

namespace Aggregator

open FunctionTag (opening)

variable {ids : IdSupply} {a : Aggregator} {es rs fs : List Event}

theorem deliver_of_new {c : ToolCall} (h : c.id ∉ a.calls.map (·.id)) :
    deliver a c = { a with calls := a.calls ++ [c], uncovered := a.uncovered ++ [c] } := by
  rw [deliver, if_neg]
  intro hm
  apply h
  rw [List.any_eq_true] at hm
  obtain ⟨b, hb, he⟩ := hm
  exact List.mem_map.2 ⟨b, hb, of_decide_eq_true he⟩

theorem drain_resolved (h : a.phase = .streaming) (hr : Event.AllResolved rs)
    (hp : rs = [] → a.pending = "")
    (hn : ((a.calls ++ Event.delivered rs).map (·.id)).Nodup) (items : List StreamItem) :
    drain ids a (rs.map .ok ++ items) =
      drain ids { a with
        calls := a.calls ++ Event.delivered rs
        uncovered := a.uncovered ++ Event.delivered rs
        pending := "" } items := by
  induction rs generalizing a with
  | nil =>
      obtain ⟨phase, content, calls, uncovered, pending, issued⟩ := a
      have he : pending = "" := hp rfl
      subst he
      simp
  | cons e rs ih =>
      obtain ⟨c, stop, rfl⟩ := hr e List.mem_cons_self
      have hrs : Event.AllResolved rs := fun e he => hr e (List.mem_cons_of_mem _ he)
      rw [Event.delivered_resolved, List.append_cons] at hn
      have hnew : c.id ∉ a.calls.map (·.id) := by
        rw [List.map_append, List.map_append, List.nodup_append, List.nodup_append] at hn
        exact fun hm => hn.1.2.2 _ hm _ List.mem_cons_self rfl
      rw [List.map_cons, List.cons_append, drain_of_push (push_resolved h c stop),
        deliver_of_new (a := { a with pending := "" }) hnew]
      rw [ih (a := { a with calls := a.calls ++ [c], uncovered := a.uncovered ++ [c], pending := "" })
        h hrs (fun _ => rfl) hn]
      simp

theorem drain_complete (h : a.phase = .streaming) (hp : a.pending = "") (stop : StopReason) :
    drain ids a [.ok (.complete stop)] = finish ids { a with phase := .complete stop } :=
  drain_of_push (push_complete h hp stop) []

theorem aggregate_delivered (ids : IdSupply) (ho : ∀ e ∈ es, e.isOpen = true)
    (hr : Event.AllResolved rs) (hf : ∀ e ∈ fs, e.isText = true)
    (hp : rs = [] → Event.fragments es = [])
    (hn : ((Event.delivered rs).map (·.id)).Nodup) (stop : StopReason) :
    aggregate ids (.start :: (es ++ (rs ++ (fs ++ [.complete stop])))) =
      finish ids {
        phase := .complete stop
        content := String.ofList (Event.prose es ++ Event.prose fs)
        calls := Event.delivered rs
        uncovered := Event.delivered rs } := by
  have hpending : rs = [] → "" ++ String.ofList (Event.fragments es) = "" := by
    intro h
    rw [hp h]
    rfl
  rw [aggregate_start, List.map_append, List.map_append, List.map_append, drain_open rfl ho,
    drain_resolved (a := ⟨.streaming, _, [], [], _, 0⟩) rfl hr hpending hn,
    drain_open rfl fun e he => Event.isOpen_of_isText (hf e he), List.map_singleton,
    drain_complete rfl]
  · simp [String.ofList_append, Event.fragments_of_text hf]
  · rw [Event.fragments_of_text hf]
    rfl

theorem aggregate_failure (ids : IdSupply) (ho : ∀ e ∈ es, e.isOpen = true)
    (stop : Option StopReason) (fs : List Event) :
    aggregate ids (.start :: (es ++ .failure stop :: fs)) =
      .error (.malformedCall ⟨String.ofList (Event.fragments es), .unparsed⟩) := by
  rw [aggregate_start, List.map_append, drain_open rfl ho, List.map_cons,
    drain_of_push_error (push_failure rfl stop)]
  simp

theorem aggregate_of_failure (hk : ∀ e ∈ es, e.kind = .progress) (stop : Option StopReason)
    (fs : List Event) :
    ∃ c, aggregate ids (.start :: (es ++ .failure stop :: fs)) = .error (.malformedCall c) := by
  rw [aggregate_start, List.map_append]
  rcases drain_progress (a := { phase := .streaming }) rfl hk with ⟨c, hc⟩ | ⟨b, hb, hd⟩
  · exact ⟨c, hc _⟩
  · rw [hd, List.map_cons, drain_of_push_error (push_failure hb stop)]
    exact ⟨_, rfl⟩

theorem finish_of_untagged {stop : StopReason} (h : a.phase = .complete stop)
    (ht : ¬ opening <:+: a.content.toList) :
    finish ids a = .ok ⟨String.ofList (if a.calls.isEmpty then a.content.toList
      else Text.trimEnd a.content.toList), stop, a.calls⟩ := by
  rw [finish, h]
  simp only [FunctionTag.extract_of_untagged ht]
  rfl

end Aggregator

end ChatTurn
