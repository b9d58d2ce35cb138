import ChatTurn.Proofs.Aggregator.Ids
import ChatTurn.Proofs.Output.Outcome

namespace ChatTurn

/-- The text before the first control token, and each control token with the text after it. -/
def Token.outline : List String → List Char × List (String × List Char)
  | [] => ([], [])
  | t :: ts =>
    if isControl t.toList then ([], (t, (outline ts).1) :: (outline ts).2)
    else (t.toList ++ (outline ts).1, (outline ts).2)

namespace Decoder

open FunctionTag (opening)

/-- A decoder that has nothing to do before more text comes. -/
def Settled : Decoder → Prop
  | prose none held => IsPartialTag held
  | prose (some _) held => Text.trimStart held = []
  | _ => True

theorem settled_new (format : Option PromptFormat) : (new format).Settled := by
  rw [new]
  cases CallForm.ofFormat? format with
  | none => exact IsPartialTag.nil
  | some form => rfl

theorem settled_pushProse (text : List Char) : (pushProse text).1.Settled := by
  rw [pushProse]
  cases Text.cut? opening text with
  | none => exact isPartialTag_held text
  | some p => trivial

theorem settled_feed (d : Decoder) (text : List Char) : (feed text d).1.Settled := by
  cases d with
  | call form buffer => trivial
  | ended stop => trivial
  | prose leading held =>
      cases leading with
      | none => exact settled_pushProse _
      | some form =>
          rw [feed, pushLeading]
          split
          · assumption
          · split
            · trivial
            · exact settled_pushProse _

theorem settled_advance {d : Decoder} (h : d.Settled) (op : Op) : (d.advance op).1.Settled := by
  rcases advance_cases d op with he | ⟨text, he⟩ | he
  · rw [he]
    cases d with
    | prose leading held => trivial
    | call form buffer => trivial
    | ended stop => trivial
  · rw [he]
    exact settled_feed d text
  · rw [he]
    exact h

def Agree (r r' : Decoder × List Event) : Prop :=
  r.1 = r'.1 ∧ Event.prose r.2 = Event.prose r'.2

theorem Agree.symm {r r' : Decoder × List Event} (h : Agree r r') : Agree r' r :=
  ⟨h.1.symm, h.2.symm⟩

theorem feed_nil {d : Decoder} (h : d.Settled) : Agree (feed [] d) (d, []) := by
  cases d with
  | call form buffer => exact ⟨by rw [feed, List.append_nil], rfl⟩
  | ended stop => exact ⟨rfl, rfl⟩
  | prose leading held =>
      cases leading with
      | none =>
          have hp : IsPartialTag held := h
          rw [feed, List.append_nil, pushProse, hp.cut?]
          simp only [splitPartialTag_of_partial hp]
          exact ⟨rfl, rfl⟩
      | some form =>
          have ht : Text.trimStart held = [] := h
          rw [feed, List.append_nil, pushLeading, ht]
          exact ⟨rfl, rfl⟩

def thenFeed (r : Decoder × List Event) (text : List Char) : Decoder × List Event :=
  ((feed text r.1).1, r.2 ++ (feed text r.1).2)

theorem pushProse_append (a b : List Char) :
    Agree (pushProse (a ++ b)) (thenFeed (pushProse a) b) := by
  cases ha : Text.cut? opening a with
  | some p =>
      obtain ⟨before, after⟩ := p
      rw [pushProse, pushProse, ha, Text.cut?_append_of_eq_some ha b]
      exact ⟨by simp [enter, feed, thenFeed], by simp [enter, feed, thenFeed]⟩
  | none =>
      have hcut := cut?_append_of_held ha b
      have hp : pushProse a = (prose none (splitPartialTag a).2, flush (splitPartialTag a).1) := by
        rw [pushProse, ha]
      rw [hp]
      simp only [feed, thenFeed]
      rw [pushProse, pushProse, hcut]
      cases Text.cut? opening ((splitPartialTag a).2 ++ b) with
      | some q => exact ⟨rfl, by simp [enter, prose_flush]⟩
      | none =>
          simp only [Option.map_none, splitPartialTag_append a b]
          exact ⟨rfl, by simp [prose_flush]⟩

theorem pushLeading_append (form : CallForm) (a b : List Char) :
    Agree (pushLeading form (a ++ b)) (thenFeed (pushLeading form a) b) := by
  cases ha : Text.trimStart a with
  | nil =>
      have hp : pushLeading form a = (prose (some form) a, []) := by
        rw [pushLeading, ha]
      rw [hp]
      exact ⟨rfl, rfl⟩
  | cons c cs =>
      have hab : Text.trimStart (a ++ b) = c :: (cs ++ b) := Text.trimStart_append ha b
      by_cases ho : form.opener = some c
      · have hp : pushLeading form a = enter form (c :: cs) := by
          rw [pushLeading, ha]
          exact if_pos ho
        have hq : pushLeading form (a ++ b) = enter form (c :: (cs ++ b)) := by
          rw [pushLeading, hab]
          exact if_pos ho
        rw [hp, hq]
        exact ⟨rfl, rfl⟩
      · have hp : pushLeading form a = pushProse a := by
          rw [pushLeading, ha]
          exact if_neg ho
        have hq : pushLeading form (a ++ b) = pushProse (a ++ b) := by
          rw [pushLeading, hab]
          exact if_neg ho
        rw [hp, hq]
        exact pushProse_append a b

theorem feed_append (a b : List Char) (d : Decoder) :
    Agree (feed (a ++ b) d) (thenFeed (feed a d) b) := by
  cases d with
  | call form buffer =>
      refine ⟨?_, rfl⟩
      simp only [feed, thenFeed, List.append_assoc]
  | ended stop => exact ⟨rfl, rfl⟩
  | prose leading held =>
      cases leading with
      | none =>
          have h := pushProse_append (held ++ a) b
          rw [List.append_assoc] at h
          exact h
      | some form =>
          have h := pushLeading_append form (held ++ a) b
          rw [List.append_assoc] at h
          exact h

def Course.after (r : Decoder × List Event) (c : Decoder → Course) : Course :=
  { c r.1 with events := r.2 ++ (c r.1).events }

theorem Course.after_nil (d : Decoder) (c : Decoder → Course) : Course.after (d, []) c = c d := rfl

def follow (stop : StopReason) : List (String × List Char) → Decoder → Course
  | [], d => ⟨d, [], some stop⟩
  | (t, text) :: rest, d =>
    match (Op.push t).stop? with
    | some reason => ⟨d, [], some reason⟩
    | none => .after (thenFeed (d.advance (.push t)) text) (follow stop rest)

/-- Courses to the same end, with the same prose passed on. -/
structure Course.Agree (c c' : Course) : Prop where
  decoder : c.decoder = c'.decoder
  prose : Event.prose c.events = Event.prose c'.events
  stop : c.stop? = c'.stop?

namespace Course.Agree

variable {c c' c'' : Course}

theorem refl (c : Course) : Course.Agree c c := ⟨rfl, rfl, rfl⟩

theorem symm (h : Course.Agree c c') : Course.Agree c' c :=
  ⟨h.decoder.symm, h.prose.symm, h.stop.symm⟩

theorem trans (h : Course.Agree c c') (h' : Course.Agree c' c'') : Course.Agree c c'' :=
  ⟨h.decoder.trans h'.decoder, h.prose.trans h'.prose, h.stop.trans h'.stop⟩

theorem after {r r' : Decoder × List Event} (h : Decoder.Agree r r') (c : Decoder → Course) :
    Course.Agree (.after r c) (.after r' c) := by
  obtain ⟨d, es⟩ := r
  obtain ⟨d', es'⟩ := r'
  obtain ⟨rfl, hp⟩ := h
  have hp : Event.prose es = Event.prose es' := hp
  exact ⟨rfl, by simp only [Course.after, Event.prose_append, hp], rfl⟩

theorem after_thenFeed {c c' : Decoder → Course} {r : Decoder × List Event} {text : List Char}
    (h : Course.Agree (c r.1) (.after (feed text r.1) c')) :
    Course.Agree (.after r c) (.after (thenFeed r text) c') := by
  refine ⟨h.decoder, ?_, h.stop⟩
  have hp : Event.prose (c r.1).events =
      Event.prose ((feed text r.1).2 ++ (c' (feed text r.1).1).events) := h.prose
  simp only [Course.after, thenFeed, Event.prose_append, hp, List.append_assoc]

end Course.Agree

theorem runOps_cons (t : String) (ts : List String) (stop : StopReason) :
    runOps (t :: ts) stop = .push t :: runOps ts stop := rfl

theorem course_cons_of_open {op : Op} (h : op.stop? = none) (d : Decoder) (ops : List Op) :
    d.course (op :: ops) = .after (d.advance op) (course · ops) := by
  rw [course, h]
  rfl

theorem course_cons_of_text {t : String} (h : Token.isControl t.toList = false) (d : Decoder)
    (ops : List Op) : d.course (.push t :: ops) = .after (feed t.toList d) (course · ops) := by
  have hk : Token.kind t = .text := Token.kind_eq_text_iff.2 h
  have ha : d.advance (.push t) = feed t.toList d := by rw [advance, hk]
  rw [course_cons_of_open (by rw [Op.stop?_push, hk]), ha]

theorem course_agree {d : Decoder} (h : d.Settled) (tokens : List String) (stop : StopReason) :
    Course.Agree (d.course (runOps tokens stop))
      (.after (feed (Token.outline tokens).1 d) (follow stop (Token.outline tokens).2)) := by
  induction tokens generalizing d with
  | nil => exact .after (feed_nil h).symm (follow stop [])
  | cons t ts ih =>
      by_cases ht : Token.isControl t.toList = true
      · -- The text before a control token ends here, and nothing is left to read of it.
        rw [Token.outline, if_pos ht]
        refine .trans ?_ (.after (feed_nil h).symm _)
        rw [Course.after_nil, runOps_cons, follow]
        cases hs : (Op.push t).stop? with
        | some reason =>
            rw [course, hs]
            exact .refl _
        | none =>
            rw [course_cons_of_open hs]
            exact .after_thenFeed (ih (settled_advance h _))
      · rw [Token.outline, if_neg ht]
        rw [runOps_cons, course_cons_of_text (Bool.eq_false_iff.2 ht)]
        exact (Course.Agree.after_thenFeed (ih (settled_feed d _))).trans
          (.after (feed_append _ _ d).symm _)

theorem course_agree_of_outline {ts us : List String} (h : Token.outline ts = Token.outline us)
    (format : Option PromptFormat) (stop : StopReason) :
    Course.Agree ((new format).course (runOps ts stop)) ((new format).course (runOps us stop)) := by
  refine (course_agree (settled_new format) ts stop).trans ?_
  rw [h]
  exact (course_agree (settled_new format) us stop).symm

theorem anonymous_outcome (ids ids' agg agg' : IdSupply) (passed : List Char) (stop : StopReason)
    (d : Decoder) :
    anonymous (d.outcome ids agg passed stop) = anonymous (d.outcome ids' agg' passed stop) := by
  cases d with
  | prose leading held => rfl
  | ended s => rfl
  | call form buffer =>
      rw [outcome, outcome]
      cases form.understood? buffer with
      | none => rfl
      | some p =>
          have hn : (numbered ids 0 p.2).map (·.toInvocation) =
              (numbered ids' 0 p.2).map (·.toInvocation) := by
            rw [map_toInvocation_numbered, map_toInvocation_numbered]
          refine Aggregator.Alike.finish ?_ agg agg'
          exact ⟨rfl, rfl, hn, hn⟩

theorem anonymous_run {ts us : List String} (h : Token.outline ts = Token.outline us)
    (format : Option PromptFormat) (stop : StopReason) {ids ids' : IdSupply}
    (hids : Function.Injective ids) (hids' : Function.Injective ids') (agg agg' : IdSupply) :
    anonymous (aggregate agg (.start :: (new format).run ids ts stop)) =
      anonymous (aggregate agg' (.start :: (new format).run ids' us stop)) := by
  obtain ⟨s, hs, hr⟩ := aggregate_run format hids agg ts stop
  obtain ⟨s', hs', hr'⟩ := aggregate_run format hids' agg' us stop
  have ha := course_agree_of_outline h format stop
  have he : s = s' := by
    rw [ha.stop, hs', Option.some.injEq] at hs
    exact hs.symm
  rw [hr, hr', ha.decoder, ha.prose, he]
  exact anonymous_outcome ids ids' agg agg' _ s' _

end Decoder

namespace Token

theorem outline_of_text {ts : List (List Char)} (h : ∀ t ∈ ts, isControl t = false) :
    outline (ts.map String.ofList) = (ts.flatten, []) := by
  induction ts with
  | nil => rfl
  | cons t ts ih =>
      have ht : isControl (String.ofList t).toList = false := by
        rw [String.toList_ofList]
        exact h t List.mem_cons_self
      rw [List.map_cons, outline, ih fun u hu => h u (List.mem_cons_of_mem t hu), ht,
        String.toList_ofList]
      rfl

theorem isControl_of_infix {t cs : List Char} (h : ¬ controlStart <:+: cs) (ht : t <:+: cs) :
    isControl t = false := by
  rw [Bool.eq_false_iff]
  intro hc
  rw [isControl, Bool.and_eq_true, Text.startsWith_iff] at hc
  exact h (hc.1.isInfix.trans ht)

theorem outline_ofText {s : String} (h : ¬ controlStart <:+: s.toList) :
    outline (ofText s) = outline [s] := by
  have hs : ∀ t ∈ split s.toList, isControl t = false := by
    intro t ht
    apply isControl_of_infix h
    rw [← flatten_split s.toList]
    exact List.infix_of_mem_flatten ht
  have hw : outline [s] = (s.toList, []) := by
    rw [outline, isControl_of_infix h List.infix_rfl]
    simp [outline]
  rw [ofText, outline_of_text hs, flatten_split, hw]

end Token

namespace Decoder

/-- Token boundaries do not matter: tokens with the same outline have the same outcome up to ids. In
particular a text without control tokens may be cut into words or given whole. -/
theorem aggregate_of_outline (format : Option PromptFormat) (stop : StopReason)
    {ids ids' : IdSupply} (hids : Function.Injective ids) (hids' : Function.Injective ids')
    (agg agg' : IdSupply) :
    (∀ ts us, Token.outline ts = Token.outline us →
      anonymous (aggregate agg (.start :: (new format).run ids ts stop)) =
        anonymous (aggregate agg' (.start :: (new format).run ids' us stop))) ∧
    ∀ text : String, ¬ Token.controlStart <:+: text.toList →
      anonymous (aggregate agg (.start :: (new format).run ids (Token.ofText text) stop)) =
        anonymous (aggregate agg' (.start :: (new format).run ids' [text] stop)) := by
  constructor
  · intro ts us h
    exact anonymous_run h format stop hids hids' agg agg'
  · intro text h
    exact anonymous_run (Token.outline_ofText h) format stop hids hids' agg agg'

theorem aggregate_of_outline_tag :
    anonymous (aggregate .strokes
      (.start :: (new none).run .strokes ["Hi <func", "", "tion=f>"] .other)) =
    anonymous (aggregate .strokes
      (.start :: (new none).run .strokes ["Hi ", "<function", "=f>"] .other)) ∧
    anonymous (aggregate .strokes
      (.start :: (new none).run .strokes (Token.ofText "two words") .other)) =
    anonymous (aggregate .strokes (.start :: (new none).run .strokes ["two words"] .other)) := by
  have h := aggregate_of_outline none .other IdSupply.strokes_injective
    IdSupply.strokes_injective .strokes .strokes
  have ho : Token.outline ["Hi <func", "", "tion=f>"] =
      Token.outline ["Hi ", "<function", "=f>"] := by
    decide +kernel
  have hc : ¬ Token.controlStart <:+: "two words".toList :=
    Text.cut?_eq_none_iff.1 (by decide)
  exact ⟨h.1 _ _ ho, h.2 _ hc⟩

end Decoder

end ChatTurn
