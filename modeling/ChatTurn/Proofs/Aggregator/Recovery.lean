import ChatTurn.Proofs.Aggregator.Acceptance
import ChatTurn.Proofs.Aggregator.Delivery

namespace ChatTurn.Aggregator

variable {ids : IdSupply} {a : Aggregator} {e : Event} {es : List Event} {stop : StopReason}

def IsMalformed (o : Outcome) : Prop := ∃ c, o = .error (.malformedCall c)

/-- The aggregator after all events, whatever each of them came to. -/
def after (ids : IdSupply) (a : Aggregator) (es : List Event) : Aggregator :=
  es.foldl (fun a e => (a.push ids e).1) a

def replies (ids : IdSupply) (a : Aggregator) : List Event → List Outcome
  | [] => []
  | e :: es => (a.push ids e).2 :: replies ids (a.push ids e).1 es

theorem after_cons : after ids a (e :: es) = after ids (a.push ids e).1 es := rfl

theorem after_append (es fs : List Event) :
    after ids a (es ++ fs) = after ids (after ids a es) fs := List.foldl_append

theorem resolvePending_phase (ids : IdSupply) (a : Aggregator) :
    (resolvePending ids a).1.phase = a.phase := by
  rw [resolvePending]
  split
  · rfl
  · split
    · rfl
    · exact foldl_restate_phase _ _ _

theorem applyDelta_phase (ids : IdSupply) (a : Aggregator) (d : Delta) :
    (applyDelta ids a d).1.phase = a.phase := by
  cases d with
  | text s => rfl
  | toolCall d =>
      obtain ⟨payload, status⟩ := d
      cases payload with
      | text s =>
          cases status with
          | started | inProgress | failure => rfl
          | success => exact resolvePending_phase ids _
      | call c =>
          cases status with
          | failure => rfl
          | started | inProgress | success => exact deliver_phase _ _

theorem applyStop_phase (ids : IdSupply) (a : Aggregator) (stop : Option StopReason) :
    (applyStop ids a stop).1.phase = a.phase := by
  cases stop with
  | none => rfl
  | some r => exact resolvePending_phase ids a

theorem proceed_phase (h : IsMalformed (proceed ids a e).2) :
    (proceed ids a e).1.phase = a.phase := by
  obtain ⟨c, hc⟩ := h
  have hdelta := applyDelta_phase ids a e.delta
  rw [proceed] at hc ⊢
  cases hd : applyDelta ids a e.delta with
  | mk b result =>
      rw [hd] at hc hdelta
      cases result with
      | error err => exact hdelta
      | ok =>
          have hstop := applyStop_phase ids b e.stop
          dsimp only at hc hdelta ⊢
          cases hs : applyStop ids b e.stop with
          | mk d result =>
              rw [hs] at hc hstop
              cases result with
              | error err => exact hstop.trans hdelta
              | ok => cases hc

/-- A push leaves the aggregator alone, or finds malformed text in a turn in progress, or takes the
event in its order. -/
theorem push_cases (ids : IdSupply) (a : Aggregator) (e : Event) :
    (a.phase.next? e = none ∧ (a.push ids e).1 = a ∧ ¬ IsMalformed (a.push ids e).2) ∨
      (IsMalformed (a.push ids e).2 ∧ (a.push ids e).1.phase = .streaming) ∨
      ((a.push ids e).2 = .ok () ∧ a.phase.next? e = some (a.push ids e).1.phase) := by
  cases hn : a.phase.next? e with
  | none =>
      obtain ⟨v, hv⟩ := push_of_violation ids hn
      rw [hv]
      exact .inl ⟨rfl, rfl, nofun⟩
  | some p =>
      right
      cases ha : a.phase with
      | complete stop =>
          rw [ha] at hn
          cases hn
      | awaiting =>
          rw [ha] at hn
          obtain ⟨hk, rfl⟩ := next?_awaiting_iff.1 hn
          have hpush : a.push ids e = applyDelta ids { a with phase := .streaming } e.delta := by
            simp only [push, ha, hk]
          rw [hpush, applyDelta_phase]
          rcases applyDelta_advances ids { a with phase := .streaming } e.delta with ⟨hr, -⟩ | hc
          · exact .inr ⟨hr, rfl⟩
          · exact .inl ⟨hc, rfl⟩
      | streaming =>
          rw [ha] at hn
          have hpush : a.push ids e = proceed ids a e := by
            rcases next?_streaming_iff.1 hn with ⟨hk, -⟩ | ⟨stop, hk, hs, -⟩
            · exact push_of_progress ha hk
            · simp [push, ha, hk, hs]
          rw [hpush]
          rcases proceed_spec ids a e with hc | ⟨b, hb, hproceed⟩
          · exact .inl ⟨hc, (proceed_phase hc).trans ha⟩
          · right
            rw [hproceed]
            refine ⟨rfl, congrArg some ?_⟩
            rcases next?_streaming_iff.1 hn with ⟨hk, rfl⟩ | ⟨stop, hk, hs, rfl⟩
            · rw [close, hk, hb, ha]
            · rw [close, hk, hs]

theorem push_of_complete_phase (ids : IdSupply) (h : a.phase = .complete stop) (e : Event) :
    (a.push ids e).1 = a := by
  have hn : a.phase.next? e = none := by
    rw [h]
    rfl
  obtain ⟨v, hv⟩ := push_of_violation ids hn
  rw [hv]

theorem after_of_complete (ids : IdSupply) (h : a.phase = .complete stop) (es : List Event) :
    after ids a es = a := by
  induction es with
  | nil => rfl
  | cons e es ih => rw [after_cons, push_of_complete_phase ids h, ih]

theorem complete_after_iff (ha : a.phase = .streaming)
    (hes : ∀ o ∈ replies ids a es, ¬ IsMalformed o) :
    (∃ stop, (after ids a es).phase = .complete stop) ↔
      ∃ e ∈ es, e.kind = .complete ∧ e.stop ≠ none := by
  induction es generalizing a with
  | nil => simp [after, ha]
  | cons e es ih =>
      obtain ⟨he, hes⟩ := List.forall_mem_cons.1 hes
      rw [after_cons]
      rcases push_cases ids a e with ⟨hn, hsame, -⟩ | ⟨hm, -⟩ | ⟨-, hn⟩
      · have hne : ¬ (e.kind = .complete ∧ e.stop ≠ none) := by
          rintro ⟨hk, hs⟩
          obtain ⟨stop, hs⟩ := Option.ne_none_iff_exists'.1 hs
          rw [ha, next?_streaming_iff.2 (.inr ⟨stop, hk, hs, rfl⟩)] at hn
          cases hn
        rw [hsame] at hes ⊢
        rw [ih ha hes]
        simp [hne]
      · exact absurd hm he
      · rw [ha] at hn
        rcases next?_streaming_iff.1 hn with ⟨hk, hp⟩ | ⟨stop, hk, hs, hp⟩
        · rw [ih hp hes]
          simp [hk]
        · rw [after_of_complete ids hp]
          simp [hk, hs, hp]

theorem exists_last_malformed (h : ∃ o ∈ replies ids a es, IsMalformed o) :
    ∃ before e rest, es = before ++ e :: rest ∧
      IsMalformed ((after ids a before).push ids e).2 ∧
      ∀ o ∈ replies ids (after ids a (before ++ [e])) rest, ¬ IsMalformed o := by
  induction es generalizing a with
  | nil =>
      obtain ⟨o, ho, -⟩ := h
      cases ho
  | cons e es ih =>
      by_cases hrest : ∃ o ∈ replies ids (a.push ids e).1 es, IsMalformed o
      · obtain ⟨before, d, rest, rfl, hd, hnone⟩ := ih hrest
        exact ⟨e :: before, d, rest, rfl, hd, hnone⟩
      · obtain ⟨o, ho, hm⟩ := h
        rcases List.mem_cons.1 ho with rfl | ho
        · exact ⟨[], e, es, rfl, hm, fun o ho hm => hrest ⟨o, ho, hm⟩⟩
        · exact absurd ⟨o, ho, hm⟩ hrest

theorem exists_finish_iff : (∃ m, a.finish ids = .ok m) ↔
    (∃ stop, a.phase = .complete stop) ∧
      ∀ c, FunctionTag.extract a.content.toList ≠ .error c := by
  rw [finish]
  cases a.phase with
  | awaiting | streaming => simp
  | complete stop =>
      cases FunctionTag.extract a.content.toList with
      | error c => simp
      | ok r => simp

theorem replies_of_collect {m : Completion} (h : collect ids a es = .ok m) :
    ∀ o ∈ replies ids a es, o = .ok () := by
  induction es generalizing a with
  | nil => exact List.forall_mem_nil _
  | cons e es ih =>
      rw [collect] at h
      rw [replies]
      cases hp : a.push ids e with
      | mk b result =>
          rw [hp] at h
          cases result with
          | error err => cases h
          | ok => exact List.forall_mem_cons.2 ⟨rfl, ih h⟩

/-- After malformed text no message is made just where no completion with a reason comes after the
last such text, or a tag of the prose is malformed. Aggregated at once, the turn makes no message. -/
theorem withheld_iff (h : ∃ o ∈ replies ids {} es, IsMalformed o) :
    (∃ before e rest, es = before ++ e :: rest ∧
      IsMalformed ((after ids {} before).push ids e).2 ∧
      (∀ o ∈ replies ids (after ids {} (before ++ [e])) rest, ¬ IsMalformed o) ∧
      ((∀ m, (after ids {} es).finish ids ≠ .ok m) ↔
        (∀ d ∈ rest, d.kind = .complete → d.stop = none) ∨
          ∃ c, FunctionTag.extract (after ids {} es).content.toList = .error c)) ∧
    ∀ m, aggregate ids es ≠ .ok m := by
  constructor
  · obtain ⟨before, e, rest, rfl, hm, hrest⟩ := exists_last_malformed h
    refine ⟨before, e, rest, rfl, hm, hrest, ?_⟩
    have hphase : (after ids {} (before ++ [e])).phase = .streaming := by
      rw [after_append]
      rcases push_cases ids (after ids {} before) e with ⟨-, -, hn⟩ | ⟨-, hp⟩ | ⟨hok, -⟩
      · exact absurd hm hn
      · exact hp
      · obtain ⟨c, hc⟩ := hm
        cases hok.symm.trans hc
    have hcomplete := complete_after_iff hphase hrest
    rw [← after_append, ← List.append_cons] at hcomplete
    rw [← not_exists, exists_finish_iff, hcomplete, not_and_or]
    simp only [not_exists, not_and, not_not, not_forall, ne_eq]
  · intro m hm
    obtain ⟨o, ho, c, hc⟩ := h
    cases (replies_of_collect hm o ho).symm.trans hc

def abandonedTurn : List Event :=
  [.start, .fragment "oops(" .started, .failure none, .text "Sorry"]

theorem withheld_iff_abandonedTurn :
    (∃ o ∈ replies .strokes {} abandonedTurn, IsMalformed o) ∧
    ∀ m, (after .strokes {} abandonedTurn).finish .strokes ≠ .ok m := by
  have hm : ∃ o ∈ replies .strokes {} abandonedTurn, IsMalformed o :=
    ⟨_, List.mem_cons_of_mem _ (List.mem_cons_of_mem _ List.mem_cons_self), _, rfl⟩
  obtain ⟨⟨before, e, rest, he, -, -, hiff⟩, -⟩ := withheld_iff hm
  refine ⟨hm, hiff.2 (.inl fun d hd hk => ?_)⟩
  have hkind : ∀ d ∈ abandonedTurn, d.kind ≠ .complete := by
    simp [abandonedTurn, Event.start, Event.fragment, Event.failure, Event.text]
  have hmem : d ∈ abandonedTurn := by
    rw [he]
    exact List.mem_append_right _ (List.mem_cons_of_mem _ hd)
  exact absurd hk (hkind d hmem)

/-- Text of a call that is given up, and a completion after it. -/
def resumedTurn : List Event :=
  [.start, .fragment "oops(" .started, .failure none, .complete .endOfTurn]

theorem not_withheld_resumedTurn :
    (∃ o ∈ replies .strokes {} resumedTurn, IsMalformed o) ∧
    (after .strokes {} resumedTurn).finish .strokes = .ok ⟨"", .endOfTurn, []⟩ := by
  refine ⟨⟨_, List.mem_cons_of_mem _ (List.mem_cons_of_mem _ List.mem_cons_self), _, rfl⟩, ?_⟩
  have ht : ¬ FunctionTag.opening <:+: ("" : String).toList := Text.cut?_eq_none_iff.1 rfl
  exact finish_of_untagged rfl ht

end ChatTurn.Aggregator
