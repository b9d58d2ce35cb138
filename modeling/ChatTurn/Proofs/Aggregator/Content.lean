import ChatTurn.Proofs.Aggregator.Acceptance
import ChatTurn.Proofs.Aggregator.Delivery
import ChatTurn.Proofs.Tool.FunctionTag

namespace ChatTurn.Aggregator

open FunctionTag (opening extract pieces)
open Text (Spliced)

variable {ids : IdSupply} {a : Aggregator} {m : Completion}

theorem isInfix_content_iff (h : a.finish ids = .ok m) :
    opening <:+: m.content.toList ↔ Spliced opening (pieces a.content.toList) := by
  rw [finish] at h
  split at h
  · split at h
    · cases h
    · next prose calls he =>
        cases h
        rw [← FunctionTag.isInfix_prose_iff he, String.toList_ofList]
        split
        · rfl
        · exact FunctionTag.isInfix_trimEnd_opening_iff
  · cases h

/-- Nothing in the prose of a text, or in the content of a message, opens a tag just where no tag is
spliced from the pieces around the others. -/
theorem tagless_iff (cs : List Char) (ids : IdSupply) (a : Aggregator) (es : List Event) :
    (∀ prose calls, extract cs = .ok (prose, calls) →
      (¬ opening <:+: prose ∧ extract prose = .ok (prose, []) ↔ ¬ Spliced opening (pieces cs))) ∧
    (∀ m, a.finish ids = .ok m →
      (¬ opening <:+: m.content.toList ↔ ¬ Spliced opening (pieces a.content.toList))) ∧
    ∀ m, aggregate ids es = .ok m →
      (¬ opening <:+: m.content.toList ↔ ¬ Spliced opening (pieces (Event.prose es))) := by
  refine ⟨fun prose calls h => ?_, fun m h => not_congr (isInfix_content_iff h), fun m h => ?_⟩
  · rw [← FunctionTag.isInfix_prose_iff h]
    exact ⟨fun hp => hp.1, fun hp => ⟨hp, FunctionTag.extract_prose_iff.2 hp⟩⟩
  · obtain ⟨a, ha, hm⟩ := exists_finish_of_ok h
    rw [← ha.content]
    exact not_congr (isInfix_content_iff hm)

theorem exists_ok_of_map {ε α β : Type} {x : Except ε α} {f : α → β} {b : β}
    (h : x.toOption.map f = some b) : ∃ r, x = .ok r ∧ f r = b := by
  cases x with
  | error e => cases h
  | ok r => exact ⟨r, rfl, Option.some.inj h⟩

def taggedText : String := "Sure<function=a>\x7b\x7d</function>, done"

/-- Prose on both sides of a tag. -/
theorem tagless_iff_taggedText : ∃ prose calls m,
    extract taggedText.toList = .ok (prose, calls) ∧
    ¬ opening <:+: prose ∧ extract prose = .ok (prose, []) ∧
    aggregate .strokes [.start, .text taggedText, .complete .endOfTurn] = .ok m ∧
    ¬ opening <:+: m.content.toList := by
  obtain ⟨⟨prose, calls⟩, he, hprose⟩ :=
    exists_ok_of_map (x := extract taggedText.toList) (f := (·.1)) (b := "Sure, done".toList)
      (by decide +kernel)
  obtain ⟨m, hm, -⟩ :=
    exists_ok_of_map (x := aggregate .strokes [.start, .text taggedText, .complete .endOfTurn])
      (f := (·.stop)) (b := .endOfTurn) (by decide +kernel)
  have hclean : ¬ opening <:+: prose := by
    rw [← Text.cut?_eq_none_iff, show prose = _ from hprose]
    decide +kernel
  obtain ⟨htext, -, hmessage⟩ := tagless_iff taggedText.toList .strokes {}
    [.start, .text taggedText, .complete .endOfTurn]
  have hiff := htext prose calls he
  have hspliced := hiff.1 ⟨hclean, FunctionTag.extract_prose_iff.2 hclean⟩
  exact ⟨prose, calls, m, he, hclean, (hiff.2 hspliced).2, hm, (hmessage m hm).2 hspliced⟩

def joinedText : String := "<func<function=a>\x7b\x7d</function>tion=c>\x7b\x7d</function>"

/-- The two ends of an opening, around a whole tag. -/
theorem isInfix_opening_joinedText : ∃ prose calls m,
    extract joinedText.toList = .ok (prose, calls) ∧ opening <:+: prose ∧
    extract prose ≠ .ok (prose, []) ∧
    aggregate .strokes [.start, .text joinedText, .complete .endOfTurn] = .ok m ∧
    opening <:+: m.content.toList := by
  obtain ⟨⟨prose, calls⟩, he, hprose⟩ :=
    exists_ok_of_map (x := extract joinedText.toList) (f := (·.1))
      (b := "<function=c>\x7b\x7d</function>".toList) (by decide +kernel)
  obtain ⟨m, hm, hcontent⟩ :=
    exists_ok_of_map (x := aggregate .strokes [.start, .text joinedText, .complete .endOfTurn])
      (f := (·.content)) (b := "<function=c>\x7b\x7d</function>") (by decide +kernel)
  have hopen : opening <:+: "<function=c>\x7b\x7d</function>".toList :=
    ⟨[], "c>\x7b\x7d</function>".toList, by decide +kernel⟩
  have hprose' : prose = _ := hprose
  rw [← hprose'] at hopen
  have hcontent' : m.content.toList = prose := by rw [hcontent, hprose']
  exact ⟨prose, calls, m, he, hopen, fun h => FunctionTag.extract_prose_iff.1 h hopen, hm,
    hcontent' ▸ hopen⟩

end ChatTurn.Aggregator
