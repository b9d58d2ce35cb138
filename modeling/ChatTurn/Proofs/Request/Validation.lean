import ChatTurn.Proofs.Tool.Reading
import ChatTurn.Request
import Mathlib.Data.List.Nodup

namespace ChatTurn

namespace Message

def madeIds : Message → List String
  | assistant m => m.calls.map (·.id)
  | system _ | user _ | toolResponse .. => []

def answeredId? : Message → Option String
  | toolResponse callId _ _ => some callId
  | system _ | user _ | assistant _ => none

end Message

namespace Request

variable {r : Request} {ms : List Message} {m : Message} {made seen : List String}
  {ts : List ToolDefinition} {i : Nat}

/-- Every call that is answered was made before, by one of the messages or by those of `made`. -/
def AnswersCalls (made : List String) (ms : List Message) : Prop :=
  ∀ before m after, ms = before ++ m :: after →
    ∀ id ∈ m.answeredId?, id ∈ made ++ before.flatMap Message.madeIds

theorem answersCalls_cons : AnswersCalls made (m :: ms) ↔
    (∀ id ∈ m.answeredId?, id ∈ made) ∧ AnswersCalls (made ++ m.madeIds) ms := by
  constructor
  · intro h
    refine ⟨fun id hid => ?_, fun before n after he id hid => ?_⟩
    · have hm := h [] m ms rfl id hid
      rwa [List.flatMap_nil, List.append_nil] at hm
    · have hn := h (m :: before) n after (by rw [he, List.cons_append]) id hid
      rwa [List.flatMap_cons, ← List.append_assoc] at hn
  · rintro ⟨hm, h⟩ before n after he id hid
    cases before with
    | nil =>
        cases he
        rw [List.flatMap_nil, List.append_nil]
        exact hm id hid
    | cons b before =>
        cases he
        rw [List.flatMap_cons, ← List.append_assoc]
        exact h before n after rfl id hid

theorem checkResponses_cons : checkResponses i made (m :: ms) = .ok () ↔
    (∀ id ∈ m.answeredId?, id ∈ made) ∧ checkResponses (i + 1) (made ++ m.madeIds) ms = .ok () := by
  cases m with
  | system | user | assistant => simp [checkResponses, Message.answeredId?, Message.madeIds]
  | toolResponse callId tool content =>
      by_cases hm : callId ∈ made
      · simp [checkResponses, Message.answeredId?, Message.madeIds, hm]
      · simp [checkResponses, Message.answeredId?, hm]

theorem checkResponses_eq_ok_iff : checkResponses i made ms = .ok () ↔ AnswersCalls made ms := by
  induction ms generalizing i made with
  | nil =>
      refine iff_of_true rfl fun before m after he => ?_
      cases before <;> cases he
  | cons m ms ih => rw [checkResponses_cons, answersCalls_cons, ih]

theorem checkMessages_eq_ok_iff : checkMessages ms = .ok () ↔
    (∃ last ∈ ms.getLast?, last.role = .user ∨ last.role = .toolResponse) ∧ AnswersCalls [] ms := by
  rw [checkMessages]
  cases ms.getLast? with
  | none => simp
  | some last =>
      by_cases hr : last.role = .user ∨ last.role = .toolResponse
      · simp [hr, checkResponses_eq_ok_iff]
      · simp [hr]

def IsNamed (t : ToolDefinition) : Prop :=
  isBlank t.name.text = false ∧ ∀ p ∈ t.parameters, isBlank p.1 = false

theorem checkTools_cons {t : ToolDefinition} : checkTools seen (t :: ts) = .ok () ↔
    IsNamed t ∧ t.name.text ∉ seen ∧ checkTools (t.name.text :: seen) ts = .ok () := by
  have hany : (t.parameters.any fun p => isBlank p.1) = false ↔
      ∀ p ∈ t.parameters, isBlank p.1 = false := by
    simp only [List.any_eq_false, Bool.not_eq_true]
  rw [checkTools, IsNamed, ← hany]
  cases isBlank t.name.text with
  | true => simp
  | false =>
      by_cases hs : t.name.text ∈ seen
      · simp [hs]
      · cases t.parameters.any fun p => isBlank p.1 <;> simp [hs]

theorem checkTools_eq_ok_iff : checkTools seen ts = .ok () ↔
    (∀ t ∈ ts, IsNamed t ∧ t.name.text ∉ seen) ∧ (ts.map (·.name.text)).Nodup := by
  induction ts generalizing seen with
  | nil => exact iff_of_true rfl ⟨List.forall_mem_nil _, List.nodup_nil⟩
  | cons t ts ih =>
      rw [checkTools_cons, ih, List.forall_mem_cons, List.map_cons, List.nodup_cons]
      simp only [List.mem_cons, not_or, List.mem_map, not_exists, not_and]
      constructor
      · rintro ⟨hn, hs, hts, hd⟩
        exact ⟨⟨⟨hn, hs⟩, fun u hu => ⟨(hts u hu).1, (hts u hu).2.2⟩⟩,
          fun u hu => (hts u hu).2.1, hd⟩
      · rintro ⟨⟨⟨hn, hs⟩, hts⟩, ht, hd⟩
        exact ⟨hn, hs, fun u hu => ⟨(hts u hu).1, ht u hu, (hts u hu).2⟩, hd⟩

theorem checkFormat_eq_ok_iff : checkFormat r = .ok () ↔
    (r.tools = [] → r.format = none) ∧ checkTools [] r.tools = .ok () := by
  rw [checkFormat]
  cases r.tools with
  | nil => cases r.format <;> simp [checkTools]
  | cons t ts => simp

theorem validate_eq_ok_iff : r.validate = .ok () ↔ isBlank r.model = false ∧
    checkMessages r.messages = .ok () ∧ checkFormat r = .ok () ∧
      checkSampling r.sampling = .ok () := by
  rw [validate]
  cases isBlank r.model with
  | true => exact iff_of_false nofun fun h => nomatch h.1
  | false =>
      constructor
      · intro h
        obtain ⟨⟨⟩, hm, h⟩ := bind_eq_ok_iff.1 h
        obtain ⟨⟨⟩, hf, hs⟩ := bind_eq_ok_iff.1 h
        exact ⟨rfl, hm, hf, hs⟩
      · rintro ⟨-, hm, hf, hs⟩
        exact bind_eq_ok_iff.2 ⟨_, hm, bind_eq_ok_iff.2 ⟨_, hf, hs⟩⟩

theorem of_validate (h : r.validate = .ok ()) :
    (∃ last ∈ r.messages.getLast?, last.role = .user ∨ last.role = .toolResponse) ∧
      AnswersCalls [] r.messages ∧ (∀ t ∈ r.tools, IsNamed t) ∧
      (r.tools.map (·.name.text)).Nodup := by
  obtain ⟨-, hm, hf, -⟩ := validate_eq_ok_iff.1 h
  obtain ⟨hlast, hanswers⟩ := checkMessages_eq_ok_iff.1 hm
  obtain ⟨hnamed, hdistinct⟩ := checkTools_eq_ok_iff.1 (checkFormat_eq_ok_iff.1 hf).2
  exact ⟨hlast, hanswers, fun t ht => (hnamed t ht).1, hdistinct⟩

end Request

end ChatTurn
