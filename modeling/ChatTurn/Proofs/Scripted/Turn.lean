import ChatTurn.Proofs.Output.Protocol
import ChatTurn.Proofs.Scripted.Isolation
import ChatTurn.Scripted.Provider

namespace ChatTurn

namespace Event

/-- The events of a whole message, apart from its start and its completion: what came while it went
on, and what its end brought. -/
structure Entire (opened closing : List Event) (stop : StopReason) : Prop where
  ongoing : ∀ e ∈ opened, e.Ongoing
  progress : ∀ e ∈ closing, e.kind = .progress
  one_call : OneCall (opened ++ closing)
  of_begun : Begun opened → ClosesCall stop closing
  of_not_begun : ¬ Begun opened → ∀ e ∈ closing, e.isText = true

/-- The events of a turn that has a start, one message and its completion. -/
def IsTurn (es : List Event) : Prop :=
  ∃ opened closing stop, es = .start :: (opened ++ closing ++ [.complete stop]) ∧
    Entire opened closing stop

end Event

theorem Decoder.Reached.entire {d : Decoder} {es : List Event} (h : Reached d es) (ids : IdSupply)
    (stop : StopReason) : ∃ closing, (d.finish ids stop).2 = closing ++ [.complete stop] ∧
      Event.Entire es closing stop := by
  have hopen : ∀ e ∈ es, e.Ongoing := fun e he => Event.ongoing_of_isOpen (h.isOpen e he)
  have hone : ∀ {closing}, (∀ e ∈ closing, Event.IsOver e) → Event.OneCall (es ++ closing) :=
    fun hc => h.oneCall.append (fun e he => (hc e he).not_started) fun ⟨e, he, hs⟩ =>
      absurd hs (hc e he).not_inProgress
  cases d with
  | prose leading held =>
      have hc := closing_prose h stop
      exact ⟨_, rfl, hopen, fun e he => (hc.isOver e he).kind, hone hc.isOver, hc.of_begun,
        fun _ e he => isText_of_mem_flush he⟩
  | call form buffer =>
      have hc := closing_call h ids stop
      exact ⟨_, rfl, hopen, fun e he => (hc.isOver e he).kind, hone hc.isOver, hc.of_begun,
        fun hn => absurd (begun_of_call h) hn⟩
  | ended s => cases h

theorem Decoder.isTurn_run (format : Option PromptFormat) (ids : IdSupply) (tokens : List String)
    (stop : StopReason) : Event.IsTurn (.start :: (new format).run ids tokens stop) := by
  obtain ⟨s, -, hr⟩ := run_eq_course (reached_new format).isDone tokens stop
  obtain ⟨closing, hf, he⟩ := (reached_course format (runOps tokens stop)).entire ids s
  exact ⟨_, closing, s, by rw [hr, hf, List.append_assoc], he⟩

namespace Scripted

theorem generate_eq_run (b : Budget) (d : Decoder) (tokens : List String) :
    ∃ paid, paid <+: tokens ∧ ∀ ids, generate ids b d tokens = d.run ids paid .outOfTokens := by
  induction tokens generalizing b d with
  | nil => exact ⟨[], List.nil_prefix, fun ids => rfl⟩
  | cons t ts ih =>
      simp only [generate]
      split
      · exact ⟨[], List.nil_prefix, fun ids => rfl⟩
      · cases b.pay? t with
        | none => exact ⟨[], List.nil_prefix, fun ids => rfl⟩
        | some b =>
            -- The state after a token is the same under every supply, so all pay for the same tokens.
            obtain ⟨paid, hp, hg⟩ := ih b (d.push (fun _ => "") t).1
            refine ⟨t :: paid, List.cons_prefix_cons.2 ⟨rfl, hp⟩, fun ids => ?_⟩
            have hd : (d.push ids t).1 = (d.push (fun _ => "") t).1 :=
              Decoder.apply_fst ids _ d (.push t)
            have hrun := hg ids
            rw [← hd] at hrun
            exact (congrArg _ hrun).trans (List.append_assoc _ _ _).symm

variable {p : Scripted} {ids : IdSupply} {r : Request}

theorem turn_of_output {output : String} (h : p.output r = .ok output) (ids : IdSupply) :
    p.turn ids r = .ok ((generation ids (p.budget r) (.forRequest r)
      (Token.ofText output)).map .ok) := by
  rw [turn, events, h]
  rfl

theorem isTurn_generation (ids : IdSupply) (b : Budget) (format : Option PromptFormat)
    (tokens : List String) : Event.IsTurn (generation ids b (.new format) tokens) := by
  obtain ⟨paid, -, hg⟩ := generate_eq_run b (.new format) tokens
  rw [generation, hg]
  exact Decoder.isTurn_run format ids paid .outOfTokens

theorem isTurn_turn {items : List StreamItem} (h : p.turn ids r = .ok items) :
    ∃ es, items = es.map .ok ∧ Event.IsTurn es := by
  cases ho : p.output r with
  | error fault =>
      rw [turn, events, ho] at h
      cases h
  | ok output =>
      rw [turn_of_output ho] at h
      cases h
      exact ⟨_, rfl, isTurn_generation ids _ _ _⟩

/-- However many turns a script has at once, they do not get in each other's way, and who reads one
to its end has either all its events or the one error of a provider that was shut down before. -/
theorem isolated_of_turns {t : Pool.Trace StreamItem} {q : Pool StreamItem}
    (hrun : Pool.Run p.pool t q)
    (hturns : ∀ items ∈ t.entered, ∃ ids r, p.turn ids r = .ok items) :
    Pool.Isolated p.limit (.error (.generation (.shutDown p.name))) t q ∧
      ∀ items ∈ t.entered, ∃ es, items = es.map .ok ∧ Event.IsTurn es := by
  refine ⟨Pool.isolated_of_run hrun, fun items hi => ?_⟩
  obtain ⟨ids, r, h⟩ := hturns items hi
  exact isTurn_turn h

/-- One turn is read to the end, one is given up while it runs, and one comes too late. -/
theorem isolated_of_turns_mixed : ∃ (p : Scripted) (t : Pool.Trace StreamItem)
    (q : Pool StreamItem), Pool.Run p.pool t q ∧
      (∀ items ∈ t.entered, ∃ ids r, p.turn ids r = .ok items) ∧
      .read 0 .over ∈ t ∧ .moved 1 .cancel ∈ t ∧ .read 2 .over ∈ t ∧
      Pool.Isolated p.limit (.error (.generation (.shutDown p.name))) t q ∧
      ∀ items ∈ t.entered, ∃ es, items = es.map .ok ∧ Event.IsTurn es := by
  have hturn : turn ⟨"local", [], some Token.endOfTurn, 8, 1⟩ (fun _ => "") (.new "m" []) =
      .ok [.ok .start, .ok (.complete .endOfTurn)] := by
    with_unfolding_all rfl
  obtain ⟨q, hrun⟩ : ∃ q, Pool.Run (pool ⟨"local", [], some Token.endOfTurn, 8, 1⟩)
      [.entered [.ok .start, .ok (.complete .endOfTurn)],
        .entered [.ok .start, .ok (.complete .endOfTurn)],
        .entered [.ok .start, .ok (.complete .endOfTurn)],
        .moved 0 .acquire, .moved 0 .send, .read 0 (.item (.ok .start)), .moved 0 .send,
        .moved 0 .finish, .read 0 (.item (.ok (.complete .endOfTurn))), .read 0 .over,
        .moved 1 .acquire, .dropped 1, .closed, .moved 1 .cancel,
        .moved 2 .refuse, .read 2 (.item (.error (.generation (.shutDown "local")))),
        .read 2 .over] q := by
    have hbegun := (((Pool.Run.nil (p := pool ⟨"local", [], some Token.endOfTurn, 8, 1⟩)).concat
      (.enter [.ok .start, .ok (.complete .endOfTurn)])).concat
      (.enter [.ok .start, .ok (.complete .endOfTurn)])).concat
      (.enter [.ok .start, .ok (.complete .endOfTurn)])
    have hread := ((((((hbegun.concat (.move (i := 0) (m := .acquire) rfl)).concat
      (.move (i := 0) (m := .send) rfl)).concat (.read (i := 0) rfl rfl)).concat
      (.move (i := 0) (m := .send) rfl)).concat (.move (i := 0) (m := .finish) rfl)).concat
      (.read (i := 0) rfl rfl)).concat (.read (i := 0) rfl rfl)
    have hdropped := (((hread.concat (.move (i := 1) (m := .acquire) rfl)).concat
      (.drop (i := 1) rfl rfl)).concat .close).concat (.move (i := 1) (m := .cancel) rfl)
    exact ⟨_, ((hdropped.concat (.move (i := 2) (m := .refuse) rfl)).concat
      (.read (i := 2) rfl rfl)).concat (.read (i := 2) rfl rfl)⟩
  refine ⟨_, _, q, hrun, ?turns, by simp, by simp, by simp, isolated_of_turns hrun ?turns⟩
  intro items hi
  have he : items = [.ok .start, .ok (.complete .endOfTurn)] := by
    simpa [Pool.Trace.entered, Pool.Occurrence.entered?] using hi
  exact ⟨_, _, he ▸ hturn⟩

end Scripted

end ChatTurn
