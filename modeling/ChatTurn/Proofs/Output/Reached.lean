import ChatTurn.Proofs.Output.Operation
import ChatTurn.Proofs.Text.Trim

namespace ChatTurn.Decoder

open FunctionTag (opening)

/-- A decoder that goes on, and all events that it has brought. -/
inductive Reached : Decoder → List Event → Prop
  | leading {form : CallForm} {held : List Char} (hh : Text.trimStart held = []) :
      Reached (prose (some form) held) []
  | prose {held : List Char} {es : List Event} (ht : ∀ e ∈ es, e.isText = true)
      (hs : splitPartialTag (Event.prose es ++ held) = (Event.prose es, held))
      (hc : Text.cut? opening (Event.prose es ++ held) = none) :
      Reached (prose none held) es
  | call {form : CallForm} {initial : String} {texts frags : List Event}
      (ht : ∀ e ∈ texts, e.isText = true) (hc : Text.cut? opening (Event.prose texts) = none)
      (hf : ∀ e ∈ frags, ∃ s, e = .fragment s .inProgress) :
      Reached (call form (initial.toList ++ Event.fragments frags))
        (texts ++ .fragment initial .started :: frags)

theorem reached_new (format : Option PromptFormat) : Reached (new format) [] := by
  rw [new]
  cases CallForm.ofFormat? format with
  | none => exact .prose (List.forall_mem_nil _) rfl rfl
  | some form => exact .leading rfl

theorem Reached.isDone {d : Decoder} {es : List Event} (h : Reached d es) : d.isDone = false := by
  cases h <;> rfl

theorem prose_flush (held : List Char) : Event.prose (flush held) = held := by
  rw [flush]
  cases held with
  | nil => rfl
  | cons c cs => simp

theorem isText_of_mem_flush {held : List Char} {e : Event} (h : e ∈ flush held) :
    e.isText = true :=
  Event.isText_of_mem_ite h

theorem isText_of_mem_append_flush {es : List Event} {held : List Char}
    (h : ∀ e ∈ es, e.isText = true) : ∀ e ∈ es ++ flush held, e.isText = true :=
  List.forall_mem_append.2 ⟨h, fun _ he => isText_of_mem_flush he⟩

theorem reached_call (es : List Event) (held : List Char) (form : CallForm) (initial : List Char)
    (ht : ∀ e ∈ es, e.isText = true)
    (hc : Text.cut? opening (Event.prose es ++ held) = none) :
    Reached (call form initial)
      (es ++ (flush held ++ [.fragment (String.ofList initial) .started])) := by
  have hc' : Text.cut? opening (Event.prose (es ++ flush held)) = none := by
    rw [Event.prose_append, prose_flush]
    exact hc
  have h : Reached (call form ((String.ofList initial).toList ++ Event.fragments []))
      (es ++ flush held ++ [.fragment (String.ofList initial) .started]) :=
    .call (isText_of_mem_append_flush ht) hc' (List.forall_mem_nil _)
  rw [String.toList_ofList, Event.fragments_nil, List.append_nil, List.append_assoc] at h
  exact h

theorem reached_pushProse (es : List Event) (held : List Char) (ht : ∀ e ∈ es, e.isText = true)
    (hs : splitPartialTag (Event.prose es ++ held) = (Event.prose es, held))
    (hc : Text.cut? opening (Event.prose es ++ held) = none) (text : List Char) :
    Reached (pushProse (held ++ text)).1 (es ++ (pushProse (held ++ text)).2) := by
  have hcut := cut?_append_of_held hc text
  rw [hs] at hcut
  rw [pushProse]
  cases h : Text.cut? opening (held ++ text) with
  | some p =>
      obtain ⟨before, after⟩ := p
      rw [h] at hcut
      apply reached_call es before .functionTag _ ht
      rw [Text.cut?_eq_none_iff]
      exact Text.not_isInfix_before (by decide) hcut
  | none =>
      rw [h] at hcut
      have hsplit := splitPartialTag_append (Event.prose es ++ held) text
      rw [hs] at hsplit
      have he : Event.prose es ++ (splitPartialTag (held ++ text)).1 ++
          (splitPartialTag (held ++ text)).2 = Event.prose es ++ held ++ text := by
        rw [List.append_assoc, append_splitPartialTag, List.append_assoc]
      refine .prose (isText_of_mem_append_flush ht) ?_ ?_
      · rw [Event.prose_append, prose_flush, he]
        exact hsplit
      · rw [Event.prose_append, prose_flush, he]
        exact hcut

theorem reached_pushLeading (form : CallForm) (held : List Char) :
    Reached (pushLeading form held).1 (pushLeading form held).2 := by
  rw [pushLeading]
  split
  · next h => exact .leading h
  · split
    · exact reached_call [] [] form _ (List.forall_mem_nil _) rfl
    · exact reached_pushProse [] [] (List.forall_mem_nil _) rfl rfl held

theorem Reached.feed {d : Decoder} {es : List Event} (h : Reached d es) (text : List Char) :
    Reached (feed text d).1 (es ++ (Decoder.feed text d).2) := by
  cases h with
  | leading hh => exact reached_pushLeading _ _
  | prose ht hs hc => exact reached_pushProse _ _ ht hs hc text
  | @call form initial texts frags ht hc hf =>
      have hmore : ∀ e ∈ frags ++ [.fragment (String.ofList text) .inProgress],
          ∃ s, e = .fragment s .inProgress :=
        List.forall_mem_append.2 ⟨hf, List.forall_mem_singleton.2 ⟨_, rfl⟩⟩
      have hr : Reached (.call form (initial.toList ++ Event.fragments _)) _ :=
        .call ht hc hmore
      simpa [Decoder.feed] using hr

theorem Reached.prose_held {leading : Option CallForm} {held : List Char} {es : List Event}
    (h : Reached (Decoder.prose leading held) es) :
    (∀ e ∈ es, e.isText = true) ∧ Text.cut? opening (Event.prose es ++ held) = none := by
  cases h with
  | prose ht hs hc => exact ⟨ht, hc⟩
  | leading hh =>
      refine ⟨List.forall_mem_nil _, ?_⟩
      rw [Text.cut?_eq_none_iff]
      intro hi
      -- Blank text does not hold the first character of a tag.
      have hm : '<' ∈ held := hi.subset (by decide)
      have hw := Text.isBlank_iff.1 (Text.trimStart_eq_nil_iff.1 hh) '<' hm
      exact absurd hw (by decide)

theorem Reached.openCall {d : Decoder} {es : List Event} (h : Reached d es) :
    Reached (openCall d).1 (es ++ (Decoder.openCall d).2) := by
  cases d with
  | prose leading held =>
      obtain ⟨ht, hc⟩ := h.prose_held
      exact reached_call es held .builtin [] ht hc
  | call form buffer =>
      change Reached (Decoder.call form buffer) (es ++ [])
      rw [List.append_nil]
      exact h
  | ended stop => cases h

theorem Reached.advance {d : Decoder} {es : List Event} (h : Reached d es) (op : Op) :
    Reached (d.advance op).1 (es ++ (d.advance op).2) := by
  rcases advance_cases d op with he | ⟨text, he⟩ | he
  · rw [he]
    exact h.openCall
  · rw [he]
    exact h.feed text
  · rw [he, List.append_nil]
    exact h

/-- What every operation preserves, up to the end of the message. -/
theorem Reached.course {d : Decoder} {es : List Event} (h : Reached d es) (ops : List Op) :
    Reached (d.course ops).decoder (es ++ (d.course ops).events) := by
  induction ops generalizing d es with
  | nil =>
      rw [Decoder.course, List.append_nil]
      exact h
  | cons op ops ih =>
      rw [Decoder.course]
      cases op.stop? with
      | some stop =>
          rw [List.append_nil]
          exact h
      | none =>
          rw [← List.append_assoc]
          exact ih (h.advance op)

theorem reached_course (format : Option PromptFormat) (ops : List Op) :
    Reached ((new format).course ops).decoder ((new format).course ops).events :=
  (reached_new format).course ops

end ChatTurn.Decoder
