import ChatTurn.Proofs.Aggregator.Delivery
import ChatTurn.Proofs.Output.Reached

namespace ChatTurn

/-- The prose around the calls in a buffer, and the calls; none where it holds no call. -/
def CallForm.understood? (form : CallForm) (buffer : List Char) :
    Option (List Char × List Invocation) :=
  match form.read buffer with
  | .ok (around, i :: is) => some (if Text.isBlank around then [] else around, i :: is)
  | _ => none

namespace Decoder

open FunctionTag (opening)

theorem allResolved_resolutions (stop : StopReason) (cs : List ToolCall) :
    Event.AllResolved (resolutions stop cs) := by
  fun_induction resolutions stop cs with
  | case1 => exact List.forall_mem_nil _
  | case2 c =>
      exact List.forall_mem_singleton.2 ⟨c, some stop, rfl⟩
  | case3 c cs hc ih =>
      exact List.forall_mem_cons.2 ⟨⟨c, none, rfl⟩, ih⟩

theorem delivered_resolutions (stop : StopReason) (cs : List ToolCall) :
    Event.delivered (resolutions stop cs) = cs := by
  fun_induction resolutions stop cs with
  | case1 => rfl
  | case2 c => rfl
  | case3 c cs hc ih => rw [Event.delivered_resolved, ih]

theorem resolutions_ne_nil (stop : StopReason) {cs : List ToolCall} (h : cs ≠ []) :
    resolutions stop cs ≠ [] := by
  intro he
  apply h
  rw [← delivered_resolutions stop cs, he]
  rfl

theorem conclude_of_none {form : CallForm} {buffer : List Char}
    (h : form.understood? buffer = none) (stop : StopReason) :
    ∃ os, (∀ e ∈ os, Event.isText e = true) ∧
      ∀ ids, conclude ids form buffer stop = os ++ [.failure (some stop)] := by
  rw [CallForm.understood?] at h
  split at h
  · cases h
  · next hn =>
      cases hr : form.read buffer with
      | error e =>
          refine ⟨[], List.forall_mem_nil _, fun ids => ?_⟩
          rw [conclude, hr]
          rfl
      | ok p =>
          obtain ⟨around, calls⟩ := p
          cases calls with
          | cons i is => exact absurd hr (hn around i is)
          | nil =>
              refine ⟨if Text.isBlank around then [] else [.text (String.ofList around)],
                fun e he => Event.isText_of_mem_ite he, fun ids => ?_⟩
              rw [conclude, hr]
              rfl

theorem conclude_of_some {form : CallForm} {buffer around : List Char} {calls : List Invocation}
    (h : form.understood? buffer = some (around, calls)) (stop : StopReason) :
    calls ≠ [] ∧ ∃ os, (∀ e ∈ os, Event.isText e = true) ∧ Event.prose os = around ∧
      ∀ ids, conclude ids form buffer stop = os ++ resolutions stop (numbered ids 0 calls) := by
  rw [CallForm.understood?] at h
  split at h
  · next around' i is hr =>
      simp only [Option.some.injEq, Prod.mk.injEq] at h
      obtain ⟨rfl, rfl⟩ := h
      refine ⟨List.cons_ne_nil i is,
        if Text.isBlank around' then [] else [.text (String.ofList around')],
        fun e he => Event.isText_of_mem_ite he, ?_, fun ids => ?_⟩
      · split
        · rfl
        · simp
      · rw [conclude, hr]
        rfl
  · cases h

/-- The outcome of a turn that ends for `stop` when `passed` has been passed on of its prose. -/
def outcome (ids agg : IdSupply) (passed : List Char) (stop : StopReason) :
    Decoder → Except Error Completion
  | prose _ held => .ok ⟨String.ofList (passed ++ held), stop, []⟩
  | call form buffer =>
    match form.understood? buffer with
    | none => .error (.malformedCall ⟨String.ofList buffer, .unparsed⟩)
    | some (around, calls) =>
      Aggregator.finish agg {
        phase := .complete stop
        content := String.ofList (passed ++ around)
        calls := numbered ids 0 calls
        uncovered := numbered ids 0 calls }
  | ended _ => .error .canceled

theorem Reached.isOpen {d : Decoder} {es : List Event} (h : Reached d es) :
    ∀ e ∈ es, e.isOpen = true := by
  intro e he
  cases h with
  | leading hh => cases he
  | prose ht hs hc => exact Event.isOpen_of_isText (ht e he)
  | call ht hc hf =>
      rcases List.mem_append.1 he with he | he
      · exact Event.isOpen_of_isText (ht e he)
      · rcases List.mem_cons.1 he with rfl | he
        · rfl
        · obtain ⟨s, rfl⟩ := hf e he
          rfl

theorem Reached.fragments {form : CallForm} {buffer : List Char} {es : List Event}
    (h : Reached (Decoder.call form buffer) es) : Event.fragments es = buffer := by
  cases h with
  | call ht hc hf => simp [Event.fragments_of_text ht]

theorem aggregate_prose {leading : Option CallForm} {held : List Char} {es : List Event}
    (h : Reached (prose leading held) es) (agg : IdSupply) (stop : StopReason) :
    aggregate agg (.start :: (es ++ (flush held ++ [.complete stop]))) =
      .ok ⟨String.ofList (Event.prose es ++ held), stop, []⟩ := by
  obtain ⟨ht, hc⟩ := h.prose_held
  have hr : Event.AllResolved [] := List.forall_mem_nil _
  have hf : ∀ e ∈ flush held, e.isText = true := fun _ he => isText_of_mem_flush he
  have hd := Aggregator.aggregate_delivered agg h.isOpen hr hf
    (fun _ => Event.fragments_of_text ht) List.nodup_nil stop
  rw [List.nil_append, prose_flush] at hd
  rw [hd, Aggregator.finish_of_untagged rfl]
  · simp
  · rw [String.toList_ofList]
    exact Text.cut?_eq_none_iff.1 hc

theorem aggregate_call {form : CallForm} {buffer : List Char} {es : List Event}
    (h : Reached (call form buffer) es) {ids : IdSupply} (hids : Function.Injective ids)
    (agg : IdSupply) (stop : StopReason) :
    aggregate agg (.start :: (es ++ (conclude ids form buffer stop ++ [.complete stop]))) =
      (call form buffer).outcome ids agg (Event.prose es) stop := by
  rw [outcome]
  cases hu : form.understood? buffer with
  | none =>
      obtain ⟨os, hos, hc⟩ := conclude_of_none hu stop
      have ho : ∀ e ∈ es ++ os, e.isOpen = true :=
        List.forall_mem_append.2 ⟨h.isOpen, fun e he => Event.isOpen_of_isText (hos e he)⟩
      have hf := Aggregator.aggregate_failure agg ho (some stop) [.complete stop]
      rw [Event.fragments_append, h.fragments, Event.fragments_of_text hos, List.append_nil] at hf
      rw [hc ids]
      simpa using hf
  | some p =>
      obtain ⟨around, calls⟩ := p
      obtain ⟨hne, os, hos, hp, hc⟩ := conclude_of_some hu stop
      have ho : ∀ e ∈ es ++ os, e.isOpen = true :=
        List.forall_mem_append.2 ⟨h.isOpen, fun e he => Event.isOpen_of_isText (hos e he)⟩
      have hrne : resolutions stop (numbered ids 0 calls) ≠ [] :=
        resolutions_ne_nil stop fun hn => hne (numbered_eq_nil_iff.1 hn)
      have hn : ∀ e ∈ [], Event.isText e = true := List.forall_mem_nil _
      have hd := Aggregator.aggregate_delivered agg ho
        (allResolved_resolutions stop (numbered ids 0 calls)) hn (fun hn => absurd hn hrne)
        (by rw [delivered_resolutions]; exact nodup_numbered hids 0 calls) stop
      rw [delivered_resolutions, Event.prose_append, hp, Event.prose_nil, List.append_nil] at hd
      rw [hc ids]
      simpa using hd

theorem Reached.aggregate_finish {d : Decoder} {es : List Event} (h : Reached d es)
    {ids : IdSupply} (hids : Function.Injective ids) (agg : IdSupply) (stop : StopReason) :
    aggregate agg (.start :: (es ++ (d.finish ids stop).2)) =
      d.outcome ids agg (Event.prose es) stop := by
  cases d with
  | prose leading held => exact aggregate_prose h agg stop
  | call form buffer => exact aggregate_call h hids agg stop
  | ended s => cases h

theorem run_eq_course {d : Decoder} (h : d.isDone = false) (tokens : List String)
    (stop : StopReason) :
    ∃ s, (d.course (runOps tokens stop)).stop? = some s ∧
      ∀ ids, d.run ids tokens stop = (d.course (runOps tokens stop)).events ++
        ((d.course (runOps tokens stop)).decoder.finish ids s).2 := by
  cases hs : (d.course (runOps tokens stop)).stop? with
  | none =>
      have hn : (Op.finish stop).stop? = none :=
        course_stop?_eq_none_iff.1 hs _ (List.mem_append_right _ List.mem_cons_self)
      cases hn
  | some s =>
      refine ⟨s, rfl, fun ids => ?_⟩
      rw [run_eq_perform, perform_eq_course h, hs]

theorem aggregate_run (format : Option PromptFormat) {ids : IdSupply}
    (hids : Function.Injective ids) (agg : IdSupply) (tokens : List String)
    (stop : StopReason) :
    ∃ s, ((new format).course (runOps tokens stop)).stop? = some s ∧
      aggregate agg (.start :: (new format).run ids tokens stop) =
        ((new format).course (runOps tokens stop)).decoder.outcome ids agg
          (Event.prose ((new format).course (runOps tokens stop)).events) s := by
  obtain ⟨s, hs, hr⟩ := run_eq_course (reached_new format).isDone tokens stop
  exact ⟨s, hs, by rw [hr]; exact (reached_course format _).aggregate_finish hids agg s⟩

end Decoder

end ChatTurn
