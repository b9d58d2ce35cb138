import ChatTurn.Proofs.Scripted.Isolation

namespace ChatTurn

def Stage.ahead : Stage → Nat
  | waiting => 2
  | running => 1
  | ended => 0

def Generation.ahead {α : Type} (g : Generation α) : Nat := g.unsent.length + g.stage.ahead

namespace Pool

variable {α : Type} {p q : Pool α} {g g' : Generation α} {m : Move} {n i fuel : Nat}
  {t t' : Trace α} {items : List α}

def ahead (p : Pool α) : Nat := p.generations.foldr (fun g n => g.ahead + n) 0

theorem Moves.ahead_lt (h : Moves p g m g' n) : g'.ahead < g.ahead := by
  cases h with
  | acquire | finish => exact Nat.lt_succ_self _
  | refuse => exact Nat.lt_of_lt_of_le (by decide : 0 < 2) (Nat.le_add_left _ _)
  | send => exact Nat.add_lt_add_right (Nat.lt_succ_self _) 1
  | @cancel st unsent buffer hst =>
      have hpos : 0 < st.ahead := by
        cases st with
        | waiting | running => decide
        | ended => exact absurd rfl hst
      exact Nat.lt_of_lt_of_le hpos (Nat.le_add_left _ _)

theorem foldr_set_lt {l : List α} {a b : α} {f : α → Nat} (h : l[i]? = some a) (hf : f b < f a) :
    (l.set i b).foldr (fun a n => f a + n) 0 < l.foldr (fun a n => f a + n) 0 := by
  induction l generalizing i with
  | nil => cases h
  | cons c l ih =>
      cases i with
      | zero =>
          cases h
          exact Nat.add_lt_add_right hf _
      | succ i => exact Nat.add_lt_add_left (ih h) _

theorem ahead_lt_of_step? (h : p.step? = some q) : q.ahead < p.ahead := by
  obtain ⟨i, m, hstep⟩ := step_of_step? h
  rcases hstep.change with ⟨items, he, -⟩ | ⟨he, -⟩ | ⟨j, g, g', n, hj, hc, rfl⟩
  · cases he
  · cases he
  · cases hc with
    | move hm => exact foldr_set_lt hj hm.ahead_lt

theorem ahead_le_work (p : Pool α) : p.ahead ≤ p.work := by
  rw [ahead, work]
  induction p.generations with
  | nil => exact Nat.le_refl _
  | cons g gs ih =>
      have hg : g.stage.ahead ≤ 2 := by cases g.stage <;> decide
      rw [List.foldr_cons, List.foldr_cons, Generation.ahead]
      omega

theorem step?_run (h : p.ahead ≤ fuel) : (run fuel p).step? = none := by
  induction fuel generalizing p with
  | zero =>
      rw [run]
      cases hs : p.step? with
      | none => rfl
      | some q => exact absurd (ahead_lt_of_step? hs) (by omega)
  | succ fuel ih =>
      rw [run]
      cases hs : p.step? with
      | none => exact hs
      | some q =>
          have hlt := ahead_lt_of_step? hs
          exact ih (by omega)

theorem moved?_of_settled (hi : p.settle.generations[i]? = some g)
    (hm : m ∈ [.cancel, .refuse, .acquire, .send, .finish]) : p.settle.moved? g m = none := by
  have hs : p.settle.step? = none := step?_run p.ahead_le_work
  have hlt := (List.getElem?_eq_some_iff.1 hi).1
  have hgeneration := List.findSome?_eq_none_iff.1 hs i (List.mem_range.2 hlt)
  have hmove := List.findSome?_eq_none_iff.1 hgeneration m hm
  rw [move?, hi] at hmove
  cases hg : p.settle.moved? g m with
  | none => rfl
  | some r =>
      simp only [Option.bind_eq_bind, Option.bind_some, hg] at hmove
      cases hmove

/-- A generation that is left with nothing to read has nothing more to do. -/
theorem not_running_of_settled (hi : p.settle.generations[i]? = some g)
    (hd : g.isDropped = false) (hb : g.buffer = []) : g.stage ≠ .running := by
  intro hst
  cases hu : g.unsent with
  | nil =>
      have hn := moved?_of_settled hi (show Move.finish ∈ _ by decide)
      simp [moved?, hst, hu] at hn
  | cons a rest =>
      have hn := moved?_of_settled hi (show Move.send ∈ _ by decide)
      simp [moved?, hst, hu, hd, hb, capacity] at hn

/-- The generation at place `i` has its permit for these items, and its stream has not been
dropped. -/
structure Serves (t : Trace α) (i : Nat) (items : List α) : Prop where
  entered : t.entered[i]? = some items
  acquired : .acquire ∈ t.moves i
  kept : .dropped i ∉ t

theorem Serves.append (h : Serves t i items) (hm : ∀ o ∈ t', ∃ k m, o = .moved k m) :
    Serves (t ++ t') i items ∧ Trace.received (t ++ t') i = t.received i := by
  have hentered : t'.filterMap Occurrence.entered? = [] := by
    rw [List.filterMap_eq_nil_iff]
    intro o ho
    obtain ⟨k, m, rfl⟩ := hm o ho
    rfl
  have hreceived : t'.filterMap (Occurrence.item? i) = [] := by
    rw [List.filterMap_eq_nil_iff]
    intro o ho
    obtain ⟨k, m, rfl⟩ := hm o ho
    rfl
  refine ⟨⟨?_, ?_, fun hd => ?_⟩, ?_⟩
  · rw [Trace.entered, List.filterMap_append, hentered, List.append_nil]
    exact h.entered
  · rw [Trace.moves, List.filterMap_append]
    exact List.mem_append_left _ h.acquired
  · obtain ⟨k, m, he⟩ := hm _ ((List.mem_append.1 hd).resolve_left h.kept)
    cases he
  · rw [Trace.received, List.filterMap_append, hreceived, List.append_nil, Trace.received]

theorem Serves.read (h : Serves t i items) (a : α) :
    Serves (t ++ [.read i (.item a)]) i items := by
  refine ⟨?_, ?_, fun hd => ?_⟩
  · rw [Trace.entered_concat]
    exact (List.append_nil t.entered).symm ▸ h.entered
  · rw [Trace.moves_concat]
    exact List.mem_append_left _ h.acquired
  · rcases List.mem_append.1 hd with hd | hd
    · exact h.kept hd
    · cases List.mem_singleton.1 hd

theorem readAll_eq {limit : Nat} {refusal : α} (h : Run { limit, refusal } t q)
    (hs : Serves t i items) (hf : items.length < (t.received i).length + fuel) :
    t.received i ++ (q.readAll fuel i).1 = items := by
  induction fuel generalizing t q with
  | zero =>
      have hle := ((isolated_of_run h).received i items hs.entered hs.acquired).length_le
      omega
  | succ fuel ih =>
      obtain ⟨t', hrun, hmoves⟩ := exists_run_settle q
      have hall := h.append hrun
      obtain ⟨hs', hreceived⟩ := hs.append hmoves
      have hk := kept_of_run hall
      obtain ⟨g, hg, hl⟩ := hk.life_of_getElem? hs'.entered
      have hd : g.isDropped = false := Bool.eq_false_iff.2 fun hn => hs'.kept (hk.left hg hn)
      rw [← hreceived] at hf ⊢
      cases hb : g.buffer with
      | nil =>
          have hst : g.stage = .ended := by
            cases hst : g.stage with
            | waiting =>
                have hcourse := hl.course
                rw [hst] at hcourse
                have ha := hs'.acquired
                rw [hcourse.eq_nil] at ha
                cases ha
            | running => exact absurd hst (not_running_of_settled hg hd hb)
            | ended => rfl
          have hr : q.settle.receive i = (.over, q.settle) := by
            simp only [receive, hg, hb, if_pos hst]
          have hw := (hl.flows_of_acquired hs'.acquired).whole hd
          rw [hb, hl.spent hst] at hw
          rw [readAll, hr]
          simpa using hw
      | cons a rest =>
          have hr : q.settle.receive i =
              (.item a, q.settle.update i fun g => { g with buffer := rest }) := by
            simp only [receive, hg, hb]
          have hstep := Step.read hg hd
          rw [hr] at hstep
          have hgot : Trace.received (t ++ t' ++ [.read i (.item a)]) i =
              Trace.received (t ++ t') i ++ [a] := by
            rw [Trace.received_concat, Occurrence.item?, if_pos rfl]
            rfl
          have hnext := ih (hall.concat hstep) (hs'.read a) (by
            rw [hgot, List.length_append, List.length_singleton]
            omega)
          rw [hgot, List.append_assoc] at hnext
          rw [readAll, hr]
          exact hnext

/-- What the reader of a generation has when it comes to the end, and that it comes to the end if it
stays. -/
structure Yields (t : Trace α) (q : Pool α) (i : Nat) (items : List α) : Prop where
  sofar : t.received i <+: items
  ended : .read i .over ∈ t → t.received i = items
  remaining : .dropped i ∉ t → t.received i ++ (q.readAll (q.remaining i) i).1 = items

theorem yields_of_run {limit : Nat} {refusal : α} (h : Run { limit, refusal } t q)
    (hi : t.entered[i]? = some items) (ha : .acquire ∈ t.moves i) : Yields t q i items := by
  have hisolated := isolated_of_run h
  refine ⟨hisolated.received i items hi ha, fun ho => ?_, fun hd => ?_⟩
  · exact ((hisolated.ended i items hi ho).resolve_right fun hn => hn.1 ha).2
  · have hk := kept_of_run h
    obtain ⟨g, hg, hl⟩ := hk.life_of_getElem? hi
    have hgd : g.isDropped = false := Bool.eq_false_iff.2 fun hn => hd (hk.left hg hn)
    have hlength := congrArg List.length ((hl.flows_of_acquired ha).whole hgd)
    rw [List.length_append, List.length_append] at hlength
    refine readAll_eq h ⟨hi, ha, hd⟩ ?_
    simp only [Pool.remaining, hg]
    omega

theorem exists_run_acquired {limit : Nat} (hl : 0 < limit) (refusal : α) (items : List α) :
    ∃ t q, Run { limit, refusal } t q ∧ t.entered[0]? = some items ∧ .acquire ∈ t.moves 0 := by
  have hmove : (enter { limit, refusal } items).1.move? 0 .acquire = some
      { limit, refusal, available := limit - 1, generations := [⟨.running, items, [], false⟩] } := by
    simp [enter, move?, moved?, hl]
  refine ⟨_, _, (Run.nil.concat (.enter items)).concat (.move hmove), rfl, ?_⟩
  simp [Trace.moves, Occurrence.move?]

end Pool

end ChatTurn
