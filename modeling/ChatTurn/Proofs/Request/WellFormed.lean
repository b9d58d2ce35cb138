import ChatTurn.Error
import ChatTurn.Proofs.Double.Value
import ChatTurn.Proofs.Request.Validation

namespace ChatTurn

namespace Message

variable {m : Message} {id : String}

theorem mem_madeIds : id ∈ m.madeIds ↔ ∃ c, m = assistant c ∧ id ∈ c.calls.map (·.id) := by
  cases m <;> simp [madeIds]

theorem mem_answeredId? : id ∈ m.answeredId? ↔ ∃ tool content, m = toolResponse id tool content := by
  cases m <;> simp [answeredId?]

end Message

namespace Request

variable {r : Request} {ms ns : List Message} {made : List String} {x : Double}

/-- Every tool response is to a call of an assistant message at an earlier place. -/
def AnswersEarlier (ms : List Message) : Prop :=
  ∀ (i : Nat) callId tool content, ms[i]? = some (.toolResponse callId tool content) →
    ∃ j < i, ∃ c, ms[j]? = some (.assistant c) ∧ callId ∈ c.calls.map (·.id)

structure IsWellFormed (r : Request) : Prop where
  model : isBlank r.model = false
  last : ∃ m ∈ r.messages.getLast?, m.role = .user ∨ m.role = .toolResponse
  answers : AnswersEarlier r.messages
  named : ∀ t ∈ r.tools, IsNamed t
  distinct : (r.tools.map (·.name.text)).Nodup
  format : r.tools = [] → r.format = none
  temperature : ∀ x ∈ r.sampling.temperature, x.isFinite = true ∧ 0 ≤ x.value ∧ x.value ≤ 2
  topP : ∀ x ∈ r.sampling.topP, x.isFinite = true ∧ 0 < x.value ∧ x.value ≤ 1
  maxTokens : r.sampling.maxTokens ≠ some 0

theorem answersCalls_nil_iff : AnswersCalls [] ms ↔ AnswersEarlier ms := by
  constructor
  · intro h i callId tool content hi
    obtain ⟨hlt, he⟩ := List.getElem?_eq_some_iff.1 hi
    have hms : ms = ms.take i ++ ms[i] :: ms.drop (i + 1) := by
      rw [List.getElem_cons_drop, List.take_append_drop]
    have hmem := h _ _ _ hms callId (Message.mem_answeredId?.2 ⟨tool, content, he⟩)
    rw [List.nil_append] at hmem
    obtain ⟨m, hm, hid⟩ := List.mem_flatMap.1 hmem
    obtain ⟨c, rfl, hc⟩ := Message.mem_madeIds.1 hid
    obtain ⟨j, hj⟩ := List.mem_iff_getElem?.1 hm
    rw [List.getElem?_take] at hj
    split at hj
    · next hlt => exact ⟨j, hlt, c, hj, hc⟩
    · cases hj
  · intro h before m after hms id hid
    obtain ⟨tool, content, rfl⟩ := Message.mem_answeredId?.1 hid
    have hi : ms[before.length]? = some (.toolResponse id tool content) := by
      rw [hms, List.getElem?_append_right (Nat.le_refl _), Nat.sub_self, List.getElem?_cons_zero]
    obtain ⟨j, hj, c, hget, hc⟩ := h _ _ _ _ hi
    rw [hms, List.getElem?_append_left hj] at hget
    rw [List.nil_append]
    exact List.mem_flatMap.2 ⟨_, List.mem_of_getElem? hget, hc⟩

theorem answersCalls_of_forall (h : ∀ m ∈ ms, ∀ id ∈ m.answeredId?, id ∈ made) :
    AnswersCalls made ms := by
  intro before m after he id hid
  rw [he] at h
  exact List.mem_append_left _ (h m (List.mem_append_right _ List.mem_cons_self) id hid)

theorem answersCalls_append : AnswersCalls made (ms ++ ns) ↔
    AnswersCalls made ms ∧ AnswersCalls (made ++ ms.flatMap Message.madeIds) ns := by
  induction ms generalizing made with
  | nil =>
      have hnil : AnswersCalls made [] := answersCalls_of_forall (List.forall_mem_nil _)
      rw [List.nil_append, List.flatMap_nil, List.append_nil, and_iff_right hnil]
  | cons m ms ih =>
      rw [List.cons_append, answersCalls_cons, answersCalls_cons, ih, List.flatMap_cons,
        List.append_assoc, and_assoc]

theorem temperatureRange_iff : temperatureRange x = true ↔
    x.isFinite = true ∧ 0 ≤ x.value ∧ x.value ≤ 2 := by
  have hzero := Double.isFinite_zero
  have htwo := Double.isFinite_two
  rw [temperatureRange, Bool.and_eq_true, ← Double.value_zero, ← Double.value_two]
  constructor
  · rintro ⟨hlow, hhigh⟩
    have hx := Double.isFinite_of_between hzero htwo hlow hhigh
    exact ⟨hx, (Double.le_iff hzero hx).1 hlow, (Double.le_iff hx htwo).1 hhigh⟩
  · rintro ⟨hx, hlow, hhigh⟩
    exact ⟨(Double.le_iff hzero hx).2 hlow, (Double.le_iff hx htwo).2 hhigh⟩

theorem topPRange_iff : topPRange x = true ↔
    x.isFinite = true ∧ 0 < x.value ∧ x.value ≤ 1 := by
  have hzero := Double.isFinite_zero
  have hone := Double.isFinite_one
  rw [topPRange, Bool.and_eq_true, ← Double.value_zero, ← Double.value_one]
  constructor
  · rintro ⟨hlow, hhigh⟩
    have hx := Double.isFinite_of_between hzero hone (Double.le_of_lt hlow) hhigh
    exact ⟨hx, (Double.lt_iff hzero hx).1 hlow, (Double.le_iff hx hone).1 hhigh⟩
  · rintro ⟨hx, hlow, hhigh⟩
    exact ⟨(Double.lt_iff hzero hx).2 hlow, (Double.le_iff hx hone).2 hhigh⟩

theorem checkSampling_eq_ok_iff {s : Sampling} : checkSampling s = .ok () ↔
    (∀ x ∈ s.temperature, temperatureRange x = true) ∧ (∀ x ∈ s.topP, topPRange x = true) ∧
      s.maxTokens ≠ some 0 := by
  have hnone (o : Option Double) (p : Double → Bool) :
      o.filter (!p ·) = none ↔ ∀ x ∈ o, p x = true := by
    simp [Option.filter_eq_none_iff]
  rw [checkSampling, ← hnone, ← hnone]
  cases s.temperature.filter (!temperatureRange ·) with
  | some x => simp
  | none =>
      cases s.topP.filter (!topPRange ·) with
      | some x => simp
      | none => simp

theorem isWellFormed_iff : r.validate = .ok () ↔ r.IsWellFormed := by
  rw [validate_eq_ok_iff, checkMessages_eq_ok_iff, checkFormat_eq_ok_iff, checkTools_eq_ok_iff,
    checkSampling_eq_ok_iff, answersCalls_nil_iff]
  simp only [temperatureRange_iff, topPRange_iff, List.not_mem_nil, not_false_eq_true, and_true]
  constructor
  · rintro ⟨hmodel, ⟨hlast, hanswers⟩, ⟨hformat, hnamed, hdistinct⟩, ht, hp, hm⟩
    exact ⟨hmodel, hlast, hanswers, hnamed, hdistinct, hformat, ht, hp, hm⟩
  · rintro ⟨hmodel, hlast, hanswers, hnamed, hdistinct, hformat, ht, hp, hm⟩
    exact ⟨hmodel, ⟨hlast, hanswers⟩, ⟨hformat, hnamed, hdistinct⟩, ht, hp, hm⟩

theorem role_of_answers {m : Message} {id : String} (h : m.answeredId? = some id) :
    m.role = .toolResponse := by
  obtain ⟨tool, content, rfl⟩ := Message.mem_answeredId?.1 h
  rfl

/-- A conversation goes on with calls and then an answer to each. -/
theorem IsWellFormed.append_answers (h : r.IsWellFormed) {m : Completion} (hm : m.calls ≠ [])
    (hns : (ns.map Message.answeredId?).Perm (m.calls.map (some ·.id))) :
    ({ r with messages := r.messages ++ .assistant m :: ns } : Request).IsWellFormed := by
  have hanswers : ∀ n ∈ ns, ∃ c ∈ m.calls, n.answeredId? = some c.id := by
    intro n hn
    obtain ⟨c, hc, he⟩ := List.mem_map.1 (hns.subset (List.mem_map_of_mem hn))
    exact ⟨c, hc, he.symm⟩
  refine { h with last := ?_, answers := ?_ }
  · rcases List.eq_nil_or_concat ns with rfl | ⟨front, n, rfl⟩
    · exact absurd (List.map_eq_nil_iff.1 hns.nil_eq.symm) hm
    · rw [List.concat_eq_append] at hanswers ⊢
      obtain ⟨c, -, hc⟩ := hanswers n (List.mem_append_right _ List.mem_cons_self)
      refine ⟨n, ?_, .inr (role_of_answers hc)⟩
      dsimp only
      rw [← List.cons_append, ← List.append_assoc, List.getLast?_concat]
      rfl
  · rw [← answersCalls_nil_iff, answersCalls_append, answersCalls_cons]
    refine ⟨answersCalls_nil_iff.2 h.answers, nofun, answersCalls_of_forall fun n hn id hid => ?_⟩
    obtain ⟨c, hc, he⟩ := hanswers n hn
    cases Option.some.inj (he.symm.trans hid)
    exact List.mem_append_right _ (List.mem_map_of_mem hc)

/-- Just the well-formed requests are accepted, and every other is invalid. -/
theorem validate_iff_isWellFormed (r : Request) :
    (r.validate = .ok () ↔ r.IsWellFormed) ∧
    (¬ r.IsWellFormed →
      ∃ fault, r.validate.mapError Error.invalidRequest = .error (.invalidRequest fault)) ∧
    (r.validate = .ok () → ∀ m ns, m.calls ≠ [] →
      (ns.map Message.answeredId?).Perm (m.calls.map (some ·.id)) →
      ({ r with messages := r.messages ++ .assistant m :: ns } : Request).validate = .ok ()) := by
  refine ⟨isWellFormed_iff, fun h => ?_, fun h m ns hm hns => ?_⟩
  · cases hv : r.validate with
    | ok => exact absurd (isWellFormed_iff.1 hv) h
    | error fault => exact ⟨fault, rfl⟩
  · exact isWellFormed_iff.2 ((isWellFormed_iff.1 h).append_answers hm hns)

/-- A request that is answered with two calls, and these in the other order. -/
def asked : Request := .new "m" [.user (.text "Hi")]

def twoCalls : Completion :=
  ⟨"", .endOfMessage, [⟨⟨.custom "f", []⟩, "a"⟩, ⟨⟨.custom "g", []⟩, "b"⟩]⟩

theorem validate_iff_isWellFormed_asked : asked.validate = .ok () ∧
    ({ asked with messages := asked.messages ++ .assistant twoCalls ::
      [.toolResponse "b" (.custom "g") (.text "2"), .toolResponse "a" (.custom "f") (.text "1")] } :
        Request).validate = .ok () := by
  have hv : asked.validate = .ok () := rfl
  obtain ⟨-, -, happend⟩ := validate_iff_isWellFormed asked
  exact ⟨hv, happend hv twoCalls _ (List.cons_ne_nil _ _) (.swap _ _ _)⟩

end Request

end ChatTurn
