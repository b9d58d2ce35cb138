import ChatTurn.Proofs.Aggregator.Drain
import ChatTurn.Proofs.Aggregator.Order
import ChatTurn.Proofs.Event.CallText

namespace ChatTurn

/-- A call as the aggregator records it. -/
inductive Entry
  | delivered (call : ToolCall)
  | parsed (invocation : Invocation)

def Event.entries (es : List Event) (e : Event) : List Entry :=
  e.delta.call?.toList.map .delivered ++ (callsIn (e.endedText es)).map .parsed

/-- The calls that events have recorded, each after the events before it. -/
def journalFrom (before : List Event) : List Event → List Entry
  | [] => []
  | e :: es => e.entries before ++ journalFrom (before ++ [e]) es

def journal (es : List Event) : List Entry := journalFrom [] es

theorem journalFrom_concat (before es : List Event) (e : Event) :
    journalFrom before (es ++ [e]) = journalFrom before es ++ e.entries (before ++ es) := by
  induction es generalizing before with
  | nil => simp [journalFrom]
  | cons d es ih => simp [journalFrom, ih]

theorem journal_concat (es : List Event) (e : Event) :
    journal (es ++ [e]) = journal es ++ e.entries es := journalFrom_concat [] es e

namespace Aggregator

open Event (openText endedText Spoils)

def record (ids : IdSupply) (a : Aggregator) : Entry → Aggregator
  | .delivered c => deliver a c
  | .parsed i => restate ids a i

structure SameBooks (a b : Aggregator) : Prop where
  calls : a.calls = b.calls
  uncovered : a.uncovered = b.uncovered
  issued : a.issued = b.issued

variable {ids : IdSupply} {a b : Aggregator} {e : Event} {es : List Event}

theorem SameBooks.refl (a : Aggregator) : SameBooks a a := ⟨rfl, rfl, rfl⟩

theorem SameBooks.trans {c : Aggregator} (h : SameBooks a b) (h' : SameBooks b c) :
    SameBooks a c :=
  ⟨h.calls.trans h'.calls, h.uncovered.trans h'.uncovered, h.issued.trans h'.issued⟩

theorem SameBooks.record (h : SameBooks a b) (ids : IdSupply) (x : Entry) :
    SameBooks (record ids a x) (Aggregator.record ids b x) := by
  cases x with
  | delivered c =>
      simp only [Aggregator.record, deliver, h.calls]
      split
      · exact h
      · exact ⟨rfl, congrArg (· ++ [c]) h.uncovered, h.issued⟩
  | parsed i =>
      simp only [Aggregator.record, restate, h.uncovered]
      split
      · exact ⟨h.calls, rfl, h.issued⟩
      · simp only [h.calls, h.issued]
        exact ⟨rfl, rfl, rfl⟩

theorem SameBooks.foldl_record (h : SameBooks a b) (ids : IdSupply) (xs : List Entry) :
    SameBooks (xs.foldl (Aggregator.record ids) a) (xs.foldl (Aggregator.record ids) b) := by
  induction xs generalizing a b with
  | nil => exact h
  | cons x xs ih => exact ih (h.record ids x)

theorem foldl_record_parsed (ids : IdSupply) (a : Aggregator) (is : List Invocation) :
    (is.map Entry.parsed).foldl (record ids) a = is.foldl (restate ids) a := by
  rw [List.foldl_map]
  rfl

theorem restate_pending (ids : IdSupply) (a : Aggregator) (i : Invocation) :
    (restate ids a i).pending = a.pending := by
  rw [restate]
  split <;> rfl

theorem restate_content (ids : IdSupply) (a : Aggregator) (i : Invocation) :
    (restate ids a i).content = a.content := by
  rw [restate]
  split <;> rfl

theorem foldl_restate_pending (ids : IdSupply) (a : Aggregator) (is : List Invocation) :
    (is.foldl (restate ids) a).pending = a.pending := by
  induction is generalizing a with
  | nil => rfl
  | cons i is ih => rw [List.foldl_cons, ih, restate_pending]

theorem foldl_restate_content (ids : IdSupply) (a : Aggregator) (is : List Invocation) :
    (is.foldl (restate ids) a).content = a.content := by
  induction is generalizing a with
  | nil => rfl
  | cons i is ih => rw [List.foldl_cons, ih, restate_content]

theorem deliver_content (a : Aggregator) (c : ToolCall) : (deliver a c).content = a.content := by
  rw [deliver]
  split <;> rfl

theorem resolvePending_of_unparsable (h : IsUnparsable a.pending.toList) :
    ∃ c, (resolvePending ids a).2 = .error (.malformedCall c) := by
  obtain ⟨hb, c, hc⟩ := h
  refine ⟨c, ?_⟩
  simp only [resolvePending, hb, hc]
  rfl

theorem resolvePending_of_parsable (h : ¬ IsUnparsable a.pending.toList) :
    resolvePending ids a =
      ((callsIn a.pending.toList).foldl (restate ids) { a with pending := "" }, .ok ()) := by
  rw [resolvePending, callsIn]
  cases hb : Text.isBlank a.pending.toList with
  | true => rfl
  | false =>
      cases hc : CallText.parse a.pending.toList with
      | error c => exact absurd ⟨hb, c, hc⟩ h
      | ok calls => rfl

def absorb (ids : IdSupply) (a : Aggregator) (e : Event) : Aggregator × Outcome :=
  match applyDelta ids a e.delta with
  | (a, .error err) => (a, .error err)
  | (a, .ok ()) => applyStop ids a e.reason?

/-- What an event that does not fail changes. -/
structure Absorbs (ids : IdSupply) (es : List Event) (e : Event) (a b : Aggregator) : Prop where
  phase : b.phase = a.phase
  content : b.content.toList = a.content.toList ++ (e.delta.text?.getD "").toList
  pending : b.pending.toList = openText (es ++ [e])
  books : SameBooks b ((e.entries es).foldl (record ids) a)

def AbsorbsOrFails (ids : IdSupply) (es : List Event) (e : Event) (a : Aggregator)
    (r : Aggregator × Outcome) : Prop :=
  (Spoils es e ∧ ∃ c, r.2 = .error (.malformedCall c)) ∨
    ¬ Spoils es e ∧ ∃ b, r = (b, .ok ()) ∧ Absorbs ids es e a b

theorem applyStop_of_empty (h : a.pending = "") (stop : Option StopReason) :
    applyStop ids a stop = (a, .ok ()) := by
  cases stop with
  | none => rfl
  | some s => exact resolvePending_of_empty h

theorem absorbs_resolvePending {d : Aggregator} (hp : d.pending.toList = endedText es e)
    (hphase : d.phase = a.phase)
    (hcontent : d.content.toList = a.content.toList ++ (e.delta.text?.getD "").toList)
    (hends : e.endsCall = true) (hf : e.status? ≠ some .failure)
    (hbooks : SameBooks d ((e.delta.call?.toList.map .delivered).foldl (record ids) a)) :
    AbsorbsOrFails ids es e a (resolvePending ids d) := by
  by_cases h : IsUnparsable (endedText es e)
  · exact .inl ⟨.inr h, resolvePending_of_unparsable (hp ▸ h)⟩
  · refine .inr ⟨fun hs => hs.elim hf h, _, resolvePending_of_parsable (hp ▸ h), ?_, ?_, ?_, ?_⟩
    · rw [foldl_restate_phase]
      exact hphase
    · rw [foldl_restate_content]
      exact hcontent
    · rw [foldl_restate_pending, Event.openText_concat_of_ends hends]
      rfl
    · rw [Event.entries, List.foldl_append, hp, ← foldl_record_parsed]
      have hb : SameBooks { d with pending := "" } d := ⟨rfl, rfl, rfl⟩
      exact (hb.trans hbooks).foldl_record ids _

theorem absorbs_applyStop {d : Aggregator}
    (hp : d.pending.toList = openText es ++ (e.fragment?.getD "").toList)
    (hphase : d.phase = a.phase)
    (hcontent : d.content.toList = a.content.toList ++ (e.delta.text?.getD "").toList)
    (hends : e.endsCall = e.reason?.isSome) (hf : e.status? ≠ some .failure)
    (hs : e.delivered? = none)
    (hbooks : SameBooks d ((e.delta.call?.toList.map .delivered).foldl (record ids) a)) :
    AbsorbsOrFails ids es e a (applyStop ids d e.reason?) := by
  cases hr : e.reason? with
  | some stop =>
      rw [hr] at hends
      refine absorbs_resolvePending ?_ hphase hcontent hends hf hbooks
      rw [hp, endedText, if_neg]
      simp [hf, hs, hends]
  | none =>
      rw [hr] at hends
      have he : endedText es e = [] := if_pos (.inr (.inr hends))
      refine .inr ⟨?_, d, rfl, hphase, hcontent, ?_, ?_⟩
      · rintro (h | h)
        · exact hf h
        · rw [he] at h
          exact not_isUnparsable_nil h
      · rw [hp, Event.openText_concat, hends]
        rfl
      · rw [Event.entries, he, callsIn_nil, List.map_nil, List.append_nil]
        exact hbooks

theorem absorbs_delivered {c : ToolCall} (hs : e.delta = .toolCall ⟨.call c, .success⟩) :
    AbsorbsOrFails ids es e a (deliver { a with pending := "" } c, .ok ()) := by
  have he : endedText es e = [] := if_pos (.inr (.inl (by simp [Event.delivered?, hs])))
  have hends : e.endsCall = true := by simp [Event.endsCall, Event.status?, hs]
  have hb : SameBooks { a with pending := "" } a := ⟨rfl, rfl, rfl⟩
  refine .inr ⟨?_, _, rfl, ?_, ?_, ?_, ?_⟩
  · rintro (h | h)
    · simp [Event.status?, hs] at h
    · rw [he] at h
      exact not_isUnparsable_nil h
  · exact deliver_phase _ _
  · rw [deliver_content, hs]
    exact (List.append_nil _).symm
  · rw [deliver_pending, Event.openText_concat_of_ends hends]
    rfl
  · rw [Event.entries, he, hs]
    exact hb.record ids (.delivered c)

theorem absorbs_understood {d : Aggregator} (hends : e.endsCall = true)
    (h : AbsorbsOrFails ids es e a (resolvePending ids d)) :
    AbsorbsOrFails ids es e a (match resolvePending ids d with
      | (b, .error err) => (b, .error err)
      | (b, .ok ()) => applyStop ids b e.reason?) := by
  rcases h with ⟨hs, c, hc⟩ | ⟨hs, b, hb, ha⟩
  · refine .inl ⟨hs, c, ?_⟩
    cases hr : resolvePending ids d with
    | mk b result =>
        rw [hr] at hc
        cases hc
        rfl
  · have hp : b.pending = "" := by
      rw [← String.toList_inj, ha.pending, Event.openText_concat_of_ends hends]
      rfl
    refine .inr ⟨hs, b, ?_, ha⟩
    rw [hb]
    exact applyStop_of_empty hp _

/-- Every event but a failure or the end of malformed text changes the aggregator as it says. -/
theorem absorb_spec (ids : IdSupply) (h : a.pending.toList = openText es) (e : Event) :
    AbsorbsOrFails ids es e a (absorb ids a e) := by
  obtain ⟨kind, delta, stop⟩ := e
  cases delta with
  | text s =>
      refine absorbs_applyStop (d := { a with content := a.content ++ s }) ?_ rfl ?_ rfl (nomatch ·)
        rfl ⟨rfl, rfl, rfl⟩
      · rw [h]
        exact (List.append_nil _).symm
      · exact String.toList_append
  | toolCall d =>
      obtain ⟨payload, status⟩ := d
      cases payload with
      | text s =>
          have hopen : ∀ st : ParseStatus, (a.pending ++ s).toList =
              openText es ++ ((Event.fragment s st).fragment?.getD "").toList := fun st => by
            rw [String.toList_append, h]
            rfl
          have hcontent : a.content.toList = a.content.toList ++ [] := (List.append_nil _).symm
          cases status with
          | started =>
              exact absorbs_applyStop (d := { a with pending := a.pending ++ s })
                (hopen .started) rfl hcontent rfl (nomatch ·) rfl ⟨rfl, rfl, rfl⟩
          | inProgress =>
              exact absorbs_applyStop (d := { a with pending := a.pending ++ s })
                (hopen .inProgress) rfl hcontent rfl (nomatch ·) rfl ⟨rfl, rfl, rfl⟩
          | failure => exact .inl ⟨.inl rfl, _, rfl⟩
          | success =>
              refine absorbs_understood rfl (absorbs_resolvePending ?_ rfl hcontent rfl (nomatch ·)
                ⟨rfl, rfl, rfl⟩)
              exact hopen .success
      | call c =>
          have hcontent : (deliver a c).content.toList = a.content.toList ++ [] := by
            rw [deliver_content, List.append_nil]
          have hpending : (deliver a c).pending.toList = openText es ++ [] := by
            rw [deliver_pending, h, List.append_nil]
          cases status with
          | started =>
              exact absorbs_applyStop hpending (deliver_phase a c) hcontent rfl (nomatch ·) rfl
                (.refl _)
          | inProgress =>
              exact absorbs_applyStop hpending (deliver_phase a c) hcontent rfl (nomatch ·) rfl
                (.refl _)
          | failure => exact .inl ⟨.inl rfl, _, rfl⟩
          | success =>
              have ha : absorb ids a ⟨kind, .toolCall ⟨.call c, .success⟩, stop⟩ =
                  (deliver { a with pending := "" } c, .ok ()) :=
                applyStop_of_empty (deliver_pending _ _) _
              rw [ha]
              exact absorbs_delivered rfl

end Aggregator

end ChatTurn
