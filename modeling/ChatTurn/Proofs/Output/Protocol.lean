import ChatTurn.Proofs.Output.Outcome

namespace ChatTurn

namespace Event

/-- Progress that leaves both the message and its call unfinished. -/
structure Ongoing (e : Event) : Prop where
  kind : e.kind = .progress
  stop : e.stop = none
  not_success : e.status? ≠ some .success
  not_failure : e.status? ≠ some .failure

/-- The end of a call: calls delivered and no failure, or one failure and no call. The last of these
events alone bears the reason to stop. -/
def ClosesCall (stop : StopReason) (body : List Event) : Prop :=
  ∃ rest last, body = rest ++ [last] ∧ last.stop = some stop ∧ (∀ e ∈ rest, e.stop = none) ∧
    ((last.status? = some .success ∧ ∀ e ∈ rest, e.status? ≠ some .failure) ∨
      (last.status? = some .failure ∧
        ∀ e ∈ rest, e.status? ≠ some .failure ∧ e.status? ≠ some .success))

def Begun (es : List Event) : Prop := ∃ e ∈ es, e.status? = some .started

/-- At most one call begins, and fragments go on only with a call that has begun. -/
structure OneCall (es : List Event) : Prop where
  once : es.countP (·.status? = some .started) ≤ 1
  begun_first : ∀ before, before <+: es → (∃ e ∈ before, e.status? = some .inProgress) →
    Begun before

theorem OneCall.append {es fs : List Event} (h : OneCall es)
    (hf : ∀ e ∈ fs, e.status? ≠ some .started)
    (hb : (∃ e ∈ fs, e.status? = some .inProgress) → Begun es) : OneCall (es ++ fs) := by
  constructor
  · have hz : fs.countP (·.status? = some .started) = 0 :=
      List.countP_eq_zero.2 fun e he hs => hf e he (of_decide_eq_true hs)
    rw [List.countP_append, hz]
    exact h.once
  · rintro before hp ⟨e, he, hs⟩
    rcases List.prefix_or_prefix_of_prefix hp (List.prefix_append es fs) with hq | hq
    · exact h.begun_first before hq ⟨e, he, hs⟩
    · have hes : Begun es := by
        rcases List.mem_append.1 (hp.subset he) with hm | hm
        · exact h.begun_first es List.prefix_rfl ⟨e, hm, hs⟩
        · exact hb ⟨e, hm, hs⟩
      obtain ⟨f, hf, hst⟩ := hes
      exact ⟨f, hq.subset hf, hst⟩

def IsOver (e : Event) : Prop :=
  (∃ s, e = .text s) ∨ (∃ stop, e = .failure stop) ∨ ∃ c stop, e = .resolved c stop

theorem IsOver.kind {e : Event} (h : e.IsOver) : e.kind = .progress := by
  rcases h with ⟨s, rfl⟩ | ⟨stop, rfl⟩ | ⟨c, stop, rfl⟩ <;> rfl

theorem IsOver.not_started {e : Event} (h : e.IsOver) : e.status? ≠ some .started := by
  rcases h with ⟨s, rfl⟩ | ⟨stop, rfl⟩ | ⟨c, stop, rfl⟩ <;> exact (nomatch ·)

theorem IsOver.not_inProgress {e : Event} (h : e.IsOver) : e.status? ≠ some .inProgress := by
  rcases h with ⟨s, rfl⟩ | ⟨stop, rfl⟩ | ⟨c, stop, rfl⟩ <;> exact (nomatch ·)

theorem ongoing_of_isOpen {e : Event} (h : e.isOpen = true) : e.Ongoing := by
  rcases isOpen_iff.1 h with ⟨s, rfl⟩ | ⟨s, rfl⟩ | ⟨s, rfl⟩ <;>
    exact ⟨rfl, rfl, (nomatch ·), (nomatch ·)⟩

end Event

namespace Decoder

def InCall : Decoder → Prop
  | call _ _ => True
  | _ => False

/-- What holds of a decoder and of all events so far. -/
structure Obeys (ids : IdSupply) (d : Decoder) (es : List Event) : Prop where
  ongoing : d.isDone = false → ∀ e ∈ es, e.Ongoing
  begun : d.isDone = false → (Event.Begun es ↔ d.InCall)
  goes_on : d.isDone = false → ∀ op, op.stop? = none → (d.apply ids op).1.isDone = false
  ends : d.isDone = false → ∀ op stop, op.stop? = some stop →
    (d.apply ids op).1.stop? = some stop ∧
    ∃ body, (d.apply ids op).2 = body ++ [.complete stop] ∧ (∀ e ∈ body, e.kind = .progress) ∧
      (Event.Begun es → Event.ClosesCall stop body) ∧
      (¬ Event.Begun es → ∀ e ∈ body, e.stop = none)
  silent : d.isDone = true → ∀ op, d.apply ids op = (d, [])
  one_call : Event.OneCall es
  outcome : ∀ agg, match d.stop? with
    | none => aggregate agg (.start :: es) = .error .canceled
    | some stop => (∃ m, m.stop = stop ∧ aggregate agg (.start :: es) = .ok m) ∨
      ∃ c, aggregate agg (.start :: es) = .error (.malformedCall c)

theorem resolutions_eq (stop : StopReason) {cs : List ToolCall} (h : cs ≠ []) :
    ∃ rest c, resolutions stop cs = rest ++ [.resolved c (some stop)] ∧
      ∀ e ∈ rest, ∃ c, e = .resolved c none := by
  fun_induction resolutions stop cs with
  | case1 => exact absurd rfl h
  | case2 c => exact ⟨[], c, rfl, List.forall_mem_nil _⟩
  | case3 c cs hc ih =>
      obtain ⟨rest, last, hr, hn⟩ := ih hc
      exact ⟨.resolved c none :: rest, last, by rw [hr]; rfl,
        List.forall_mem_cons.2 ⟨⟨c, rfl⟩, hn⟩⟩

theorem not_begun_of_text {es : List Event} (h : ∀ e ∈ es, e.isText = true) : ¬ Event.Begun es := by
  rintro ⟨e, he, hs⟩
  obtain ⟨s, rfl⟩ := Event.isText_iff.1 (h e he)
  cases hs

theorem begun_of_call {form : CallForm} {buffer : List Char} {es : List Event}
    (h : Reached (call form buffer) es) : Event.Begun es := by
  cases h with
  | @call form initial texts frags ht hc hf =>
      exact ⟨_, List.mem_append_right texts List.mem_cons_self, rfl⟩

theorem Reached.begun_iff {d : Decoder} {es : List Event} (h : Reached d es) :
    Event.Begun es ↔ d.InCall := by
  cases d with
  | prose leading held => exact iff_of_false (not_begun_of_text h.prose_held.1) id
  | call form buffer => exact iff_of_true (begun_of_call h) trivial
  | ended stop => cases h

structure Closing (es : List Event) (stop : StopReason) (body : List Event) : Prop where
  isOver : ∀ e ∈ body, e.IsOver
  of_begun : Event.Begun es → Event.ClosesCall stop body
  of_not_begun : ¬ Event.Begun es → ∀ e ∈ body, e.stop = none

theorem closing_prose {leading : Option CallForm} {held : List Char} {es : List Event}
    (h : Reached (prose leading held) es) (stop : StopReason) : Closing es stop (flush held) := by
  have ht : ∀ e ∈ flush held, ∃ s, e = .text s :=
    fun e he => Event.isText_iff.1 (isText_of_mem_flush he)
  refine ⟨fun e he => .inl (ht e he), ?_, ?_⟩
  · exact fun hb => absurd hb (not_begun_of_text h.prose_held.1)
  · intro _ e he
    obtain ⟨s, rfl⟩ := ht e he
    rfl

theorem closing_call {form : CallForm} {buffer : List Char} {es : List Event}
    (h : Reached (call form buffer) es) (ids : IdSupply) (stop : StopReason) :
    Closing es stop (conclude ids form buffer stop) := by
  have hb : Event.Begun es := begun_of_call h
  cases hu : form.understood? buffer with
  | none =>
      obtain ⟨os, hos, hc⟩ := conclude_of_none hu stop
      have ht : ∀ e ∈ os, ∃ s, e = Event.text s := fun e he => Event.isText_iff.1 (hos e he)
      rw [hc ids]
      refine ⟨?_, fun _ => ⟨os, _, rfl, rfl, ?_, .inr ⟨rfl, ?_⟩⟩, fun hn => absurd hb hn⟩
      · exact List.forall_mem_append.2
          ⟨fun e he => .inl (ht e he), List.forall_mem_singleton.2 (.inr (.inl ⟨_, rfl⟩))⟩
      · intro e he
        obtain ⟨s, rfl⟩ := ht e he
        rfl
      · intro e he
        obtain ⟨s, rfl⟩ := ht e he
        exact ⟨(nomatch ·), (nomatch ·)⟩
  | some p =>
      obtain ⟨around, calls⟩ := p
      obtain ⟨hne, os, hos, -, hc⟩ := conclude_of_some hu stop
      have hn : numbered ids 0 calls ≠ [] := fun hn => hne (numbered_eq_nil_iff.1 hn)
      obtain ⟨rest, last, hr, hrest⟩ := resolutions_eq stop hn
      rw [hc ids, hr, ← List.append_assoc]
      -- Before the last call there are prose and calls without a reason to stop.
      have ht : ∀ e ∈ os ++ rest, (∃ s, e = .text s) ∨ ∃ c, e = .resolved c none :=
        List.forall_mem_append.2
          ⟨fun e he => .inl (Event.isText_iff.1 (hos e he)), fun e he => .inr (hrest e he)⟩
      refine ⟨?_, fun _ => ⟨os ++ rest, _, rfl, rfl, ?_, .inl ⟨rfl, ?_⟩⟩, fun hn => absurd hb hn⟩
      · refine List.forall_mem_append.2
          ⟨fun e he => ?_, List.forall_mem_singleton.2 (.inr (.inr ⟨_, _, rfl⟩))⟩
        rcases ht e he with hs | ⟨c, rfl⟩
        · exact .inl hs
        · exact .inr (.inr ⟨c, none, rfl⟩)
      · intro e he
        rcases ht e he with ⟨s, rfl⟩ | ⟨c, rfl⟩ <;> rfl
      · intro e he
        rcases ht e he with ⟨s, rfl⟩ | ⟨c, rfl⟩ <;> exact (nomatch ·)

theorem Reached.closing {d : Decoder} {es : List Event} (h : Reached d es) (ids : IdSupply)
    (stop : StopReason) :
    ∃ body, (d.finish ids stop).2 = body ++ [.complete stop] ∧ Closing es stop body := by
  cases d with
  | prose leading held => exact ⟨_, rfl, closing_prose h stop⟩
  | call form buffer => exact ⟨_, rfl, closing_call h ids stop⟩
  | ended s => cases h

theorem oneCall_nil : Event.OneCall [] := by
  refine ⟨Nat.zero_le 1, ?_⟩
  rintro before hp ⟨e, he, -⟩
  rw [List.prefix_nil.1 hp] at he
  cases he

theorem oneCall_of_text {es : List Event} (h : ∀ e ∈ es, e.isText = true) : Event.OneCall es := by
  have ht : ∀ e ∈ es, ∃ s, e = .text s := fun e he => Event.isText_iff.1 (h e he)
  refine oneCall_nil.append ?_ ?_
  · intro e he
    obtain ⟨s, rfl⟩ := ht e he
    exact (nomatch ·)
  · rintro ⟨e, he, hs⟩
    obtain ⟨s, rfl⟩ := ht e he
    cases hs

theorem Reached.oneCall {d : Decoder} {es : List Event} (h : Reached d es) : Event.OneCall es := by
  cases h with
  | leading hh => exact oneCall_nil
  | prose ht hs hc => exact oneCall_of_text ht
  | @call form initial texts frags ht hc hf =>
      have hopen : Event.OneCall (texts ++ [.fragment initial .started]) := by
        have hz : texts.countP (·.status? = some .started) = 0 :=
          List.countP_eq_zero.2 fun e he hs =>
            not_begun_of_text ht ⟨e, he, of_decide_eq_true hs⟩
        refine ⟨?_, ?_⟩
        · rw [List.countP_append, hz]
          exact Nat.le_refl 1
        · rintro before hp ⟨e, he, hs⟩
          rcases List.mem_append.1 (hp.subset he) with hm | hm
          · obtain ⟨s, rfl⟩ := Event.isText_iff.1 (ht e hm)
            cases hs
          · rw [List.mem_singleton.1 hm] at hs
            cases hs
      rw [List.append_cons]
      refine hopen.append ?_ fun _ => ⟨_, List.mem_append_right texts List.mem_cons_self, rfl⟩
      intro e he
      obtain ⟨s, rfl⟩ := hf e he
      exact (nomatch ·)

theorem Reached.obeys {d : Decoder} {es : List Event} (h : Reached d es) (ids : IdSupply) :
    Obeys ids d es where
  ongoing := fun _ e he => Event.ongoing_of_isOpen (h.isOpen e he)
  begun := fun _ => h.begun_iff
  goes_on := fun hd op hop => by
    rw [apply_of_open hop]
    exact isDone_advance hd op
  ends := fun hd op stop hop => by
    rw [apply_of_stop hop, finish_fst ids stop hd]
    obtain ⟨body, hb, hc⟩ := h.closing ids stop
    exact ⟨rfl, body, hb, fun e he => (hc.isOver e he).kind, hc.of_begun, hc.of_not_begun⟩
  silent := fun hd op => apply_of_done hd ids op
  one_call := h.oneCall
  outcome := fun agg => by
    have hs : d.stop? = none := by cases h <;> rfl
    have hd : Aggregator.drain agg { phase := .streaming } (es.map .ok ++ []) = _ :=
      Aggregator.drain_open rfl h.isOpen []
    rw [List.append_nil] at hd
    rw [hs, Aggregator.aggregate_start, hd]
    exact Aggregator.finish_of_streaming rfl

theorem Reached.obeys_finish {d : Decoder} {es : List Event} (h : Reached d es) (ids : IdSupply)
    (stop : StopReason) : Obeys ids (ended stop) (es ++ (d.finish ids stop).2) := by
  obtain ⟨body, hb, hc⟩ := h.closing ids stop
  rw [hb, ← List.append_assoc]
  refine ⟨(nomatch ·), (nomatch ·), (nomatch ·), (nomatch ·),
    fun hd op => apply_of_done hd ids op, ?_, ?_⟩
  · rw [List.append_assoc]
    refine h.oneCall.append ?_ ?_
    · exact List.forall_mem_append.2
        ⟨fun e he => (hc.isOver e he).not_started, List.forall_mem_singleton.2 (nomatch ·)⟩
    · rintro ⟨e, he, hs⟩
      rcases List.mem_append.1 he with he | he
      · exact absurd hs (hc.isOver e he).not_inProgress
      · rw [List.mem_singleton.1 he] at hs
        cases hs
  · intro agg
    apply Aggregator.aggregate_turn
    exact List.forall_mem_append.2 ⟨fun e he => Event.kind_of_isOpen (h.isOpen e he),
      fun e he => (hc.isOver e he).kind⟩

/-- Every run of a new decoder obeys the protocol. -/
theorem obeys_perform (format : Option PromptFormat) (ids : IdSupply) (ops : List Op) :
    Obeys ids (perform ids (new format) ops).1 (perform ids (new format) ops).2 := by
  have h := reached_course format ops
  rw [perform_eq_course (reached_new format).isDone]
  cases hs : ((new format).course ops).stop? with
  | none => exact h.obeys ids
  | some stop => exact h.obeys_finish ids stop

end Decoder

end ChatTurn
