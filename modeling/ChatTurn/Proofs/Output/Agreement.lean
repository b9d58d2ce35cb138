import ChatTurn.Proofs.Output.Outcome

namespace ChatTurn

namespace Event

/-- No event reports text of a call that could not be understood. -/
def Understood (es : List Event) : Prop := ∀ e ∈ es, e.status? ≠ some .failure

variable {es fs : List Event}

theorem Understood.append (he : Understood es) (hf : Understood fs) : Understood (es ++ fs) :=
  List.forall_mem_append.2 ⟨he, hf⟩

theorem understood_of_open (h : ∀ e ∈ es, e.isOpen = true) : Understood es := by
  intro e he
  rcases isOpen_iff.1 (h e he) with ⟨s, rfl⟩ | ⟨s, rfl⟩ | ⟨s, rfl⟩ <;> exact fun hn => nomatch hn

theorem understood_of_resolved (h : AllResolved es) : Understood es := by
  intro e he
  obtain ⟨c, stop, rfl⟩ := h e he
  exact fun hn => nomatch hn

theorem Understood.turn (h : Understood es) (stop : StopReason) :
    Understood (.start :: (es ++ [.complete stop])) := by
  have hc : Understood [.complete stop] := List.forall_mem_singleton.2 (nomatch ·)
  exact List.forall_mem_cons.2 ⟨(nomatch ·), h.append hc⟩

/-- The text that a turn shows, without its trailing white space where the turn shows calls. -/
def shown (es : List Event) : List Char :=
  if (delivered es).isEmpty then prose es else Text.trimEnd (prose es)

end Event

/-- The message of the events has the calls and the text that they show. -/
def Faithful (agg : IdSupply) (es : List Event) : Prop :=
  ∃ m, aggregate agg es = .ok m ∧ m.calls = Event.delivered es ∧
    m.content = String.ofList (Event.shown es)

namespace Aggregator

open FunctionTag (opening)

theorem finish_keeps_iff {a : Aggregator} {stop : StopReason} (h : a.phase = .complete stop)
    (ids : IdSupply) :
    (∃ m, finish ids a = .ok m ∧ m.calls = a.calls ∧
      m.content = String.ofList (if a.calls.isEmpty then a.content.toList
        else Text.trimEnd a.content.toList)) ↔ ¬ opening <:+: a.content.toList := by
  constructor
  · rintro ⟨m, hm, -, hc⟩ ht
    rw [finish, h] at hm
    cases he : FunctionTag.extract a.content.toList with
    | error e =>
        simp only [he] at hm
        cases hm
    | ok p =>
        obtain ⟨prose, calls⟩ := p
        simp only [he] at hm
        cases hm
        -- The tag has taken a `<` with it, and trimming takes none.
        have hlt := FunctionTag.count_of_extract ht he
        have hcount := congrArg (List.count '<') (String.ofList_inj.1 hc)
        have htrim : ∀ (b : Bool) (cs : List Char),
            (if b then cs else Text.trimEnd cs).count '<' = cs.count '<' := by
          intro b cs
          cases b
          · exact Text.count_trimEnd (by decide) cs
          · rfl
        rw [htrim, htrim] at hcount
        omega
  · intro ht
    exact ⟨_, finish_of_untagged h ht, rfl, rfl⟩

end Aggregator

namespace Decoder

open FunctionTag (opening)

theorem faithful_prose {leading : Option CallForm} {held : List Char} {es : List Event}
    (h : Reached (prose leading held) es) (agg : IdSupply) (stop : StopReason) :
    Event.Understood (.start :: (es ++ (flush held ++ [.complete stop]))) ∧
    Faithful agg (.start :: (es ++ (flush held ++ [.complete stop]))) ∧
    ¬ opening <:+: Event.prose (.start :: (es ++ (flush held ++ [.complete stop]))) := by
  obtain ⟨ht, hc⟩ := h.prose_held
  have hf : ∀ e ∈ flush held, Event.isOpen e = true :=
    fun e he => Event.isOpen_of_isText (isText_of_mem_flush he)
  have hp : Event.prose (.start :: (es ++ (flush held ++ [.complete stop]))) =
      Event.prose es ++ held := by
    simp [prose_flush]
  have hd : Event.delivered (.start :: (es ++ (flush held ++ [.complete stop]))) = [] := by
    simp [Event.delivered_of_open h.isOpen, Event.delivered_of_open hf]
  refine ⟨?_, ⟨_, aggregate_prose h agg stop, hd.symm, ?_⟩, ?_⟩
  · rw [← List.append_assoc]
    exact ((Event.understood_of_open h.isOpen).append (Event.understood_of_open hf)).turn stop
  · rw [Event.shown, hd, hp]
    rfl
  · rw [hp]
    exact Text.cut?_eq_none_iff.1 hc

theorem faithful_call_iff {form : CallForm} {buffer around : List Char} {calls : List Invocation}
    {es : List Event} (h : Reached (call form buffer) es)
    (hu : form.understood? buffer = some (around, calls)) {ids : IdSupply}
    (hids : Function.Injective ids) (agg : IdSupply) (stop : StopReason) :
    Event.Understood (.start :: (es ++ (conclude ids form buffer stop ++ [.complete stop]))) ∧
    (Faithful agg (.start :: (es ++ (conclude ids form buffer stop ++ [.complete stop]))) ↔
      ¬ opening <:+:
        Event.prose (.start :: (es ++ (conclude ids form buffer stop ++ [.complete stop])))) := by
  have ha := aggregate_call h hids agg stop
  obtain ⟨-, os, hos, hp, hc⟩ := conclude_of_some hu stop
  have ho : ∀ e ∈ os, e.isOpen = true := fun e he => Event.isOpen_of_isText (hos e he)
  have hr := allResolved_resolutions stop (numbered ids 0 calls)
  rw [outcome, hu] at ha
  rw [hc ids] at ha ⊢
  have hprose : Event.prose (.start :: (es ++ (os ++ resolutions stop (numbered ids 0 calls) ++
      [.complete stop]))) = Event.prose es ++ around := by
    simp [hp, Event.prose_of_resolved hr]
  have hshown : Event.delivered (.start :: (es ++ (os ++ resolutions stop (numbered ids 0 calls) ++
      [.complete stop]))) = numbered ids 0 calls := by
    simp [Event.delivered_of_open h.isOpen, Event.delivered_of_open ho, delivered_resolutions]
  constructor
  · rw [← List.append_assoc]
    exact ((Event.understood_of_open h.isOpen).append
      ((Event.understood_of_open ho).append (Event.understood_of_resolved hr))).turn stop
  · rw [Faithful, ha, Event.shown, hshown, hprose]
    have hk := Aggregator.finish_keeps_iff
      (a := ⟨.complete stop, String.ofList (Event.prose es ++ around), numbered ids 0 calls,
        numbered ids 0 calls, "", 0⟩) rfl agg
    simp only [String.toList_ofList] at hk
    exact hk

theorem malformed_call {form : CallForm} {buffer : List Char} {es : List Event}
    (h : Reached (call form buffer) es) (hu : form.understood? buffer = none) {ids : IdSupply}
    (hids : Function.Injective ids) (agg : IdSupply) (stop : StopReason) :
    ¬ Event.Understood (.start :: (es ++ (conclude ids form buffer stop ++ [.complete stop]))) ∧
    ∃ c, aggregate agg (.start :: (es ++ (conclude ids form buffer stop ++ [.complete stop]))) =
      .error (.malformedCall c) := by
  have ha := aggregate_call h hids agg stop
  rw [outcome, hu] at ha
  refine ⟨fun hn => ?_, _, ha⟩
  obtain ⟨os, -, hc⟩ := conclude_of_none hu stop
  rw [hc ids] at hn
  exact hn (.failure (some stop)) (by simp) rfl

/-- What the watchers of a turn see agrees with its message just where the text that they see has no
tag. A call that could not be understood leaves no message. -/
theorem faithful_run_iff (format : Option PromptFormat) (tokens : List String) (stop : StopReason)
    {ids : IdSupply} (hids : Function.Injective ids) (agg : IdSupply) :
    ((∃ e ∈ Event.start :: (new format).run ids tokens stop, e.status? = some .failure) →
      ∃ c, aggregate agg (.start :: (new format).run ids tokens stop) =
        .error (.malformedCall c)) ∧
    ((∀ e ∈ Event.start :: (new format).run ids tokens stop, e.status? ≠ some .failure) →
      (Faithful agg (.start :: (new format).run ids tokens stop) ↔
        ¬ opening <:+: Event.prose (.start :: (new format).run ids tokens stop))) := by
  obtain ⟨s, -, hr⟩ := run_eq_course (reached_new format).isDone tokens stop
  have h := reached_course format (runOps tokens stop)
  rw [hr ids]
  generalize ((new format).course (runOps tokens stop)).events = es at h ⊢
  generalize ((new format).course (runOps tokens stop)).decoder = d at h ⊢
  cases d with
  | ended s' => cases h
  | prose leading held =>
      obtain ⟨hu, hf, ht⟩ := faithful_prose h agg s
      refine ⟨?_, fun _ => ⟨fun _ => ht, fun _ => hf⟩⟩
      rintro ⟨e, he, hs⟩
      exact absurd hs (hu e he)
  | call form buffer =>
      cases hread : form.understood? buffer with
      | none =>
          obtain ⟨hu, hm⟩ := malformed_call h hread hids agg s
          exact ⟨fun _ => hm, fun hn => absurd hn hu⟩
      | some p =>
          obtain ⟨hu, hf⟩ := faithful_call_iff h hread hids agg s
          refine ⟨?_, fun _ => hf⟩
          rintro ⟨e, he, hs⟩
          exact absurd hs (hu e he)

theorem faithful_run_iff_call :
    Faithful .strokes (.start :: (new none).run .strokes
      ["Sure. <func", "tion=a>\x7b\x7d</function>"] .endOfTurn) ∧
    ∃ c, aggregate .strokes (.start :: (new none).run .strokes ["<function=a>"] .endOfTurn) =
      .error (.malformedCall c) := by
  have h := fun tokens =>
    faithful_run_iff none tokens .endOfTurn IdSupply.strokes_injective .strokes
  constructor
  · rw [(h _).2 (by decide +kernel), ← Text.cut?_eq_none_iff]
    decide +kernel
  · exact (h _).1 (by decide +kernel)

/-- A tag with prose on both sides that joins to another. -/
def joinedTag : List String := ["<func<function=a>\x7b\x7d</function>tion=c>\x7b\x7d</function>"]

theorem not_faithful_joinedTag :
    (∀ e ∈ Event.start :: (new none).run .strokes joinedTag .outOfTokens,
      e.status? ≠ some .failure) ∧
    ¬ Faithful .strokes (.start :: (new none).run .strokes joinedTag .outOfTokens) := by
  constructor
  · decide +kernel
  · rintro ⟨m, hm, hc, -⟩
    have hkept : (aggregate .strokes (.start :: (new none).run .strokes joinedTag
        .outOfTokens)).toOption.map (·.calls.length) = some 2 := by
      decide +kernel
    have hshown : (Event.delivered (.start :: (new none).run .strokes joinedTag
        .outOfTokens)).length = 1 := by
      decide +kernel
    rw [hm] at hkept
    have hl : m.calls.length = 2 := Option.some.inj hkept
    rw [hc, hshown] at hl
    cases hl

end Decoder

end ChatTurn
