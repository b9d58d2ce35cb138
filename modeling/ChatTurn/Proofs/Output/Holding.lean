import ChatTurn.Proofs.Output.Outcome

namespace ChatTurn

namespace Token

/-- The text of some tokens, without the control tokens among them. -/
def words (tokens : List String) : List Char :=
  tokens.flatMap fun t => if isControl t.toList then [] else t.toList

theorem words_cons (t : String) (ts : List String) :
    words (t :: ts) = words [t] ++ words ts := by
  simp only [words, List.flatMap_cons, List.flatMap_nil, List.append_nil]

theorem words_of_control {t : String} (h : kind t ≠ .text) : words [t] = [] := by
  rw [ne_eq, kind_eq_text_iff, Bool.not_eq_false] at h
  simp [words, h]

end Token

namespace Decoder

open FunctionTag (opening)

/-- A decoder that goes on, after the text `w`, of which it has passed on `x` as prose and `b` as
a call. -/
def Accounts (w x b : List Char) : Decoder → Prop
  | prose none held =>
    x ++ held = w ∧ b = [] ∧ IsPartialTag held ∧
      ∀ s, s <:+ w → IsPartialTag s → s <:+ held
  | prose (some _) held => x = [] ∧ held = w ∧ b = [] ∧ Text.isBlank w = true
  | call .builtin buffer => buffer = b ∧ x ++ b = w
  | call .functionTag buffer =>
    buffer = b ∧ x ++ b = w ∧ opening <+: b ∧
      ∀ before after, w = before ++ opening ++ after → x.length ≤ before.length
  | call .json buffer => buffer = b ∧ x = [] ∧ b = Text.trimStart w ∧ b.head? = some '{'
  | call .list buffer => buffer = b ∧ x = [] ∧ b = Text.trimStart w ∧ b.head? = some '['
  | ended _ => False

theorem fragments_flush (held : List Char) : Event.fragments (flush held) = [] :=
  Event.fragments_of_text fun _ he => isText_of_mem_flush he

theorem fragments_enter (form : CallForm) (initial : List Char) :
    Event.fragments (enter form initial).2 = initial := by
  simp [enter]

theorem suffix_held {s cs : List Char} (hs : s <:+ cs) (hp : IsPartialTag s) :
    s <:+ (splitPartialTag cs).2 := by
  induction cs with
  | nil =>
      rw [List.suffix_nil.1 hs]
      exact List.nil_suffix
  | cons c cs ih =>
      by_cases h : IsPartialTag (c :: cs)
      · rw [splitPartialTag_of_partial h]
        exact hs
      · rw [splitPartialTag_cons h]
        rcases List.suffix_cons_iff.1 hs with rfl | hs
        · exact absurd hp h
        · exact ih hs

variable {d : Decoder} {es : List Event} {w x b held : List Char}

theorem accounts_prose (h : Reached (prose none held) es) :
    (prose none held).Accounts (Event.prose es ++ held) (Event.prose es) (Event.fragments es) := by
  cases h with
  | prose ht hs hc =>
      have hp := isPartialTag_held (Event.prose es ++ held)
      rw [hs] at hp
      refine ⟨rfl, Event.fragments_of_text ht, hp, fun s hw hpartial => ?_⟩
      have hheld := suffix_held hw hpartial
      rw [hs] at hheld
      exact hheld

theorem accounts_pushProse (h : Reached (prose none held) es) (text : List Char) :
    (pushProse (held ++ text)).1.Accounts (Event.prose es ++ held ++ text)
      (Event.prose (es ++ (pushProse (held ++ text)).2))
      (Event.fragments (es ++ (pushProse (held ++ text)).2)) := by
  have hnext := h.feed text
  rw [feed] at hnext
  cases h with
  | prose ht hs hc =>
      -- A tag may begin in what was held, so the first one is looked for in the whole text.
      have hcut := cut?_append_of_held hc text
      rw [hs] at hcut
      rw [pushProse] at hnext ⊢
      cases hp : Text.cut? opening (held ++ text) with
      | none =>
          rw [hp] at hnext
          have he : Event.prose (es ++ flush (splitPartialTag (held ++ text)).1) ++
              (splitPartialTag (held ++ text)).2 = Event.prose es ++ held ++ text := by
            rw [Event.prose_append, prose_flush, List.append_assoc, append_splitPartialTag,
              List.append_assoc]
          have ha := accounts_prose hnext
          rw [he] at ha
          exact ha
      | some p =>
          obtain ⟨before, after⟩ := p
          rw [hp] at hcut
          have hx : Event.prose
              (es ++ (flush before ++ (enter .functionTag (opening ++ after)).2)) =
              Event.prose es ++ before := by
            simp [prose_flush, enter]
          have hb : Event.fragments
              (es ++ (flush before ++ (enter .functionTag (opening ++ after)).2)) =
              opening ++ after := by
            simp [Event.fragments_of_text ht, fragments_flush, enter]
          obtain ⟨he, hfirst⟩ := Text.cut?_eq_some_iff.1 hcut
          simp only [hx, hb]
          refine ⟨rfl, ?_, List.prefix_append opening after, hfirst⟩
          rw [he, List.append_assoc (Event.prose es ++ before)]

theorem accounts_pushLeading (form : CallForm) (w : List Char) :
    (pushLeading form w).1.Accounts w (Event.prose (pushLeading form w).2)
      (Event.fragments (pushLeading form w).2) := by
  rw [pushLeading]
  cases ht : Text.trimStart w with
  | nil => exact ⟨rfl, rfl, rfl, Text.trimStart_eq_nil_iff.1 ht⟩
  | cons c cs =>
      by_cases ho : form.opener = some c
      · simp only [if_pos ho]
        cases form with
        | builtin => cases ho
        | functionTag => cases ho
        | json =>
            cases ho
            rw [fragments_enter]
            exact ⟨rfl, rfl, ht.symm, rfl⟩
        | list =>
            cases ho
            rw [fragments_enter]
            exact ⟨rfl, rfl, ht.symm, rfl⟩
      · simp only [if_neg ho]
        exact accounts_pushProse (reached_new none) w

theorem append_trimStart {c : Char} (hb : b = Text.trimStart w) (hc : b.head? = some c)
    (text : List Char) :
    b ++ text = Text.trimStart (w ++ text) ∧ (b ++ text).head? = some c := by
  cases b with
  | nil => cases hc
  | cons e rest =>
      rw [Text.trimStart_append hb.symm]
      exact ⟨rfl, hc⟩

theorem Accounts.feed (h : d.Accounts w (Event.prose es) (Event.fragments es))
    (hr : Reached d es) (text : List Char) :
    (feed text d).1.Accounts (w ++ text) (Event.prose (es ++ (Decoder.feed text d).2))
      (Event.fragments (es ++ (Decoder.feed text d).2)) := by
  cases d with
  | ended stop => exact h.elim
  | prose leading held =>
      cases leading with
      | none =>
          obtain ⟨hw, -⟩ := h
          rw [← hw]
          exact accounts_pushProse hr text
      | some form =>
          obtain ⟨-, rfl, -⟩ := h
          cases hr with
          | leading hh => exact accounts_pushLeading form _
  | call form buffer =>
      simp only [Decoder.feed, Event.prose_append, Event.prose_fragment, Event.prose_nil,
        List.append_nil, Event.fragments_append, Event.fragments_fragment, String.toList_ofList,
        Event.fragments_nil]
      cases form with
      | builtin =>
          obtain ⟨rfl, rfl⟩ := h
          exact ⟨rfl, (List.append_assoc ..).symm⟩
      | functionTag =>
          -- More text behind the tag leaves the first cut where it is.
          obtain ⟨rfl, rfl, hp, hfirst⟩ := h
          obtain ⟨rest, hb⟩ := hp
          have hcut : Text.cut? opening (Event.prose es ++ Event.fragments es) =
              some (Event.prose es, rest) := by
            rw [Text.cut?_eq_some_iff]
            refine ⟨?_, hfirst⟩
            rw [← hb, List.append_assoc]
          have hmore := Text.cut?_append_of_eq_some hcut text
          refine ⟨rfl, (List.append_assoc ..).symm, ?_, (Text.cut?_eq_some_iff.1 hmore).2⟩
          rw [← hb, List.append_assoc]
          exact List.prefix_append opening _
      | json =>
          obtain ⟨rfl, hx, hb, hc⟩ := h
          exact ⟨rfl, hx, append_trimStart hb hc text⟩
      | list =>
          obtain ⟨rfl, hx, hb, hc⟩ := h
          exact ⟨rfl, hx, append_trimStart hb hc text⟩

theorem Accounts.openCall (h : d.Accounts w (Event.prose es) (Event.fragments es)) :
    (openCall d).1.Accounts w (Event.prose (es ++ (Decoder.openCall d).2))
      (Event.fragments (es ++ (Decoder.openCall d).2)) := by
  cases d with
  | ended stop => exact h.elim
  | call form buffer =>
      simp only [Decoder.openCall, List.append_nil]
      exact h
  | prose leading held =>
      have hx : Event.prose (es ++ (Decoder.openCall (prose leading held)).2) =
          Event.prose es ++ held := by
        simp [Decoder.openCall, prose_flush]
      have hb : Event.fragments (es ++ (Decoder.openCall (prose leading held)).2) =
          Event.fragments es := by
        simp [Decoder.openCall, fragments_flush]
      rw [hx, hb]
      cases leading with
      | none =>
          obtain ⟨rfl, hn, -⟩ := h
          rw [hn]
          exact ⟨rfl, List.append_nil _⟩
      | some form =>
          obtain ⟨hp, rfl, hn, -⟩ := h
          rw [hn, hp]
          exact ⟨rfl, List.append_nil _⟩

theorem accounts_new (format : Option PromptFormat) : (new format).Accounts [] [] [] := by
  rw [new]
  cases CallForm.ofFormat? format with
  | some form => exact ⟨rfl, rfl, rfl, rfl⟩
  | none => exact ⟨rfl, rfl, .nil, fun s hs _ => hs⟩

theorem Reached.not_isInfix_prose (h : Reached d es) : ¬ opening <:+: Event.prose es := by
  cases d with
  | ended stop => cases h
  | prose leading held =>
      intro hi
      apply Text.cut?_eq_none_iff.1 h.prose_held.2
      exact hi.trans (List.prefix_append _ held).isInfix
  | call form buffer =>
      cases h with
      | @call _ _ texts frags ht hc hf =>
          have hp : Event.prose frags = [] := by
            rw [Event.prose, List.flatMap_eq_nil_iff]
            intro e he
            obtain ⟨s, rfl⟩ := hf e he
            rfl
          rw [← Text.cut?_eq_none_iff, Event.prose_append, Event.prose_fragment, hp,
            List.append_nil]
          exact hc

theorem Accounts.advance (h : d.Accounts w (Event.prose es) (Event.fragments es))
    (hr : Reached d es) (t : String) :
    (d.advance (.push t)).1.Accounts (w ++ Token.words [t])
      (Event.prose (es ++ (d.advance (.push t)).2))
      (Event.fragments (es ++ (d.advance (.push t)).2)) := by
  by_cases hk : Token.kind t = .text
  · have hw : Token.words [t] = t.toList := by
      simp [Token.words, Token.kind_eq_text_iff.1 hk]
    simp only [Decoder.advance, hk, hw]
    exact h.feed hr t.toList
  · rw [Token.words_of_control hk, List.append_nil, Decoder.advance]
    split
    · exact h.openCall
    · next ht => exact absurd ht hk
    · rw [List.append_nil]
      exact h

/-- What every token keeps, up to the one that ends the message. -/
theorem Accounts.course (h : d.Accounts w (Event.prose es) (Event.fragments es))
    (hr : Reached d es) {tokens : List String} (ht : ∀ t ∈ tokens, Token.isStop t = false) :
    (d.course (tokens.map .push)).decoder.Accounts (w ++ Token.words tokens)
      (Event.prose (es ++ (d.course (tokens.map .push)).events))
      (Event.fragments (es ++ (d.course (tokens.map .push)).events)) := by
  induction tokens generalizing d es w with
  | nil =>
      simp only [List.map_nil, Decoder.course, Token.words, List.flatMap_nil, List.append_nil]
      exact h
  | cons t ts ih =>
      obtain ⟨hs, ht⟩ := List.forall_mem_cons.1 ht
      have hnext := ih (h.advance hr t) (hr.advance (.push t)) ht
      rw [List.map_cons, Decoder.course, (Token.isStop_eq_false_iff t).1 hs, Token.words_cons,
        ← List.append_assoc]
      simp only [List.append_assoc] at hnext ⊢
      exact hnext

/-- The text of a message is passed on or held back, none of it twice, and no prose holds a
function tag. -/
theorem accounts_pushAll (format : Option PromptFormat) (ids : IdSupply) {tokens : List String}
    (ht : ∀ t ∈ tokens, Token.isStop t = false) :
    ((new format).pushAll ids tokens).1.Accounts (Token.words tokens)
      (Event.prose ((new format).pushAll ids tokens).2)
      (Event.fragments ((new format).pushAll ids tokens).2) ∧
    ¬ opening <:+: Event.prose ((new format).pushAll ids tokens).2 := by
  have hs : ((new format).course (tokens.map .push)).stop? = none := by
    rw [course_stop?_eq_none_iff, List.forall_mem_map]
    exact fun t h => (Token.isStop_eq_false_iff t).1 (ht t h)
  rw [pushAll_eq_perform, perform_eq_course (reached_new format).isDone, hs]
  have ha := (accounts_new format).course (reached_new format) ht
  exact ⟨ha, (reached_course format (tokens.map .push)).not_isInfix_prose⟩

theorem accounts_pushAll_parted :
    ((new (some .json)).pushAll .strokes [" so <fun", "<|mark|>", "ction=a>"]).1.Accounts
      " so <function=a>".toList " so ".toList "<function=a>".toList := by
  have ht : ∀ t ∈ [" so <fun", "<|mark|>", "ction=a>"], Token.isStop t = false := by decide
  have h := (accounts_pushAll (some .json) .strokes ht).1
  have hw : Token.words [" so <fun", "<|mark|>", "ction=a>"] = " so <function=a>".toList := by
    decide
  have hx : Event.prose ((new (some .json)).pushAll .strokes
      [" so <fun", "<|mark|>", "ction=a>"]).2 = " so ".toList := by
    decide
  have hb : Event.fragments ((new (some .json)).pushAll .strokes
      [" so <fun", "<|mark|>", "ction=a>"]).2 = "<function=a>".toList := by
    decide
  rw [hw, hx, hb] at h
  exact h

end Decoder

end ChatTurn
