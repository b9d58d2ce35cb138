import ChatTurn.Aggregator
import ChatTurn.Proofs.Event.Open

namespace ChatTurn.Aggregator

variable {ids : IdSupply} {a a' : Aggregator} {e : Event} {es : List Event}

theorem drain_of_push (h : a.push ids e = (a', .ok ())) (items : List StreamItem) :
    drain ids a (.ok e :: items) = drain ids a' items := by
  rw [drain, h]

theorem drain_of_push_error {err : Error} (h : (a.push ids e).2 = .error err)
    (items : List StreamItem) : drain ids a (.ok e :: items) = .error err := by
  rw [drain]
  cases hp : a.push ids e with
  | mk b result =>
      rw [hp] at h
      cases h
      rfl

theorem drain_map_ok (ids : IdSupply) (a : Aggregator) (es : List Event) :
    drain ids a (es.map .ok) = collect ids a es := by
  induction es generalizing a with
  | nil => rfl
  | cons e es ih =>
      rw [List.map_cons, drain, collect]
      cases a.push ids e with
      | mk b result =>
          cases result with
          | error err => rfl
          | ok => exact ih b

theorem aggregateStream_map_ok (ids : IdSupply) (es : List Event) :
    aggregateStream ids (es.map .ok) = aggregate ids es := drain_map_ok ids {} es

theorem push_of_progress (h : a.phase = .streaming) (he : e.kind = .progress) :
    a.push ids e = proceed ids a e := by
  simp only [push, h, he]

theorem push_of_complete (h : a.phase = .streaming) (stop : StopReason) :
    a.push ids (.complete stop) = proceed ids a (.complete stop) := by
  simp [push, h, Event.complete]

theorem push_text (h : a.phase = .streaming) (s : String) :
    a.push ids (.text s) = ({ a with content := a.content ++ s }, .ok ()) := by
  rw [push_of_progress h rfl]
  rfl

theorem push_started (h : a.phase = .streaming) (s : String) :
    a.push ids (.fragment s .started) = ({ a with pending := a.pending ++ s }, .ok ()) := by
  rw [push_of_progress h rfl]
  rfl

theorem push_inProgress (h : a.phase = .streaming) (s : String) :
    a.push ids (.fragment s .inProgress) = ({ a with pending := a.pending ++ s }, .ok ()) := by
  rw [push_of_progress h rfl]
  rfl

theorem push_failure (h : a.phase = .streaming) (stop : Option StopReason) :
    (a.push ids (.failure stop)).2 = .error (.malformedCall ⟨a.pending, .unparsed⟩) := by
  rw [push_of_progress h rfl]
  simp [Event.failure, proceed, applyDelta, applyCall]

theorem resolvePending_of_empty (h : a.pending = "") : resolvePending ids a = (a, .ok ()) := by
  cases a
  cases h
  rfl

theorem deliver_pending (a : Aggregator) (c : ToolCall) : (deliver a c).pending = a.pending := by
  rw [deliver]
  split <;> rfl

theorem deliver_phase (a : Aggregator) (c : ToolCall) : (deliver a c).phase = a.phase := by
  rw [deliver]
  split <;> rfl

theorem push_resolved (h : a.phase = .streaming) (c : ToolCall) (stop : Option StopReason) :
    a.push ids (.resolved c stop) = (deliver { a with pending := "" } c, .ok ()) := by
  have hp : applyStop ids (deliver { a with pending := "" } c) stop =
      (deliver { a with pending := "" } c, .ok ()) := by
    cases stop with
    | none => rfl
    | some s => exact resolvePending_of_empty (deliver_pending _ _)
  rw [push_of_progress h rfl]
  simp only [Event.resolved, proceed, applyDelta, applyCall]
  rw [hp]
  rfl

theorem push_complete (h : a.phase = .streaming) (hp : a.pending = "") (stop : StopReason) :
    a.push ids (.complete stop) = ({ a with phase := .complete stop }, .ok ()) := by
  rw [push_of_complete h, proceed, show applyDelta ids a (Event.complete stop).delta = (a, .ok ()) by
    simp [Event.complete, applyDelta]]
  simp only [Event.complete, applyStop, resolvePending_of_empty hp, close]

theorem push_start (h : a.phase = .awaiting) :
    a.push ids .start = ({ a with phase := .streaming }, .ok ()) := by
  simp [push, h, Event.start, applyDelta]

theorem drain_open (h : a.phase = .streaming) (ho : ∀ e ∈ es, e.isOpen = true)
    (items : List StreamItem) :
    drain ids a (es.map .ok ++ items) =
      drain ids { a with
        content := a.content ++ String.ofList (Event.prose es)
        pending := a.pending ++ String.ofList (Event.fragments es) } items := by
  induction es generalizing a with
  | nil => simp
  | cons e es ih =>
      have he := ho e List.mem_cons_self
      have hes : ∀ e ∈ es, e.isOpen = true := fun e h => ho e (List.mem_cons_of_mem _ h)
      rw [List.map_cons, List.cons_append]
      rcases Event.isOpen_iff.1 he with ⟨s, rfl⟩ | ⟨s, rfl⟩ | ⟨s, rfl⟩
      · rw [drain_of_push (push_text h s), ih (a := { a with content := a.content ++ s }) h hes]
        simp [String.ofList_append, String.append_assoc]
      · rw [drain_of_push (push_started h s), ih (a := { a with pending := a.pending ++ s }) h hes]
        simp [String.ofList_append, String.append_assoc]
      · rw [drain_of_push (push_inProgress h s),
          ih (a := { a with pending := a.pending ++ s }) h hes]
        simp [String.ofList_append, String.append_assoc]

theorem restate_phase (ids : IdSupply) (a : Aggregator) (i : Invocation) :
    (restate ids a i).phase = a.phase := by
  rw [restate]
  split <;> rfl

theorem foldl_restate_phase (ids : IdSupply) (a : Aggregator) (is : List Invocation) :
    (is.foldl (restate ids) a).phase = a.phase := by
  induction is generalizing a with
  | nil => rfl
  | cons i is ih => rw [List.foldl_cons, ih, restate_phase]

/-- What a step of a turn in progress may do: go on in the same phase, or find the text of a call
malformed. -/
def Advances (a : Aggregator) (r : Aggregator × Outcome) : Prop :=
  (r.2 = .ok () ∧ r.1.phase = a.phase) ∨ ∃ c, r.2 = .error (.malformedCall c)

theorem resolvePending_advances (ids : IdSupply) (a : Aggregator) :
    Advances a (resolvePending ids a) := by
  rw [resolvePending]
  split
  · exact .inl ⟨rfl, rfl⟩
  · split
    · exact .inr ⟨_, rfl⟩
    · exact .inl ⟨rfl, foldl_restate_phase _ _ _⟩

theorem applyDelta_advances (ids : IdSupply) (a : Aggregator) (d : Delta) :
    Advances a (applyDelta ids a d) := by
  cases d with
  | text s => exact .inl ⟨rfl, rfl⟩
  | toolCall d =>
      obtain ⟨payload, status⟩ := d
      cases status <;> cases payload
      · exact .inl ⟨rfl, rfl⟩
      · exact .inl ⟨rfl, deliver_phase _ _⟩
      · exact .inl ⟨rfl, rfl⟩
      · exact .inl ⟨rfl, deliver_phase _ _⟩
      · exact .inr ⟨_, rfl⟩
      · exact .inr ⟨_, rfl⟩
      · exact resolvePending_advances ids _
      · exact .inl ⟨rfl, deliver_phase _ _⟩

theorem applyStop_advances (ids : IdSupply) (a : Aggregator) (stop : Option StopReason) :
    Advances a (applyStop ids a stop) := by
  cases stop with
  | none => exact .inl ⟨rfl, rfl⟩
  | some s => exact resolvePending_advances ids a

theorem proceed_spec (ids : IdSupply) (a : Aggregator) (e : Event) :
    (∃ c, (proceed ids a e).2 = .error (.malformedCall c)) ∨
      ∃ b : Aggregator, b.phase = a.phase ∧ proceed ids a e = (b.close e, .ok ()) := by
  cases hd : applyDelta ids a e.delta with
  | mk b result =>
      have hb := applyDelta_advances ids a e.delta
      rw [hd] at hb
      rcases hb with ⟨hr, hphase⟩ | ⟨c, hr⟩
      · cases hr
        cases hs : applyStop ids b e.stop with
        | mk b' result' =>
            have hb' := applyStop_advances ids b e.stop
            rw [hs] at hb'
            rcases hb' with ⟨hr', hphase'⟩ | ⟨c, hr'⟩
            · cases hr'
              refine .inr ⟨b', hphase'.trans hphase, ?_⟩
              simp [proceed, hd, hs]
            · cases hr'
              exact .inl ⟨c, by simp [proceed, hd, hs]⟩
      · cases hr
        exact .inl ⟨c, by simp [proceed, hd]⟩

theorem push_progress (ids : IdSupply) (h : a.phase = .streaming) (he : e.kind = .progress) :
    (∃ c, (a.push ids e).2 = .error (.malformedCall c)) ∨
      ∃ b : Aggregator, b.phase = .streaming ∧ a.push ids e = (b, .ok ()) := by
  rw [push_of_progress h he]
  rcases proceed_spec ids a e with hc | ⟨b, hphase, hb⟩
  · exact .inl hc
  · refine .inr ⟨b, hphase.trans h, ?_⟩
    rw [hb, close, he]

theorem drain_progress (h : a.phase = .streaming) (hk : ∀ e ∈ es, e.kind = .progress) :
    (∃ c, ∀ items, drain ids a (es.map .ok ++ items) = .error (.malformedCall c)) ∨
      ∃ b : Aggregator, b.phase = .streaming ∧
        ∀ items, drain ids a (es.map .ok ++ items) = drain ids b items := by
  induction es generalizing a with
  | nil => exact .inr ⟨a, h, fun items => rfl⟩
  | cons e es ih =>
      rcases push_progress ids h (hk e List.mem_cons_self) with ⟨c, hc⟩ | ⟨b, hb, hp⟩
      · exact .inl ⟨c, fun items => drain_of_push_error hc _⟩
      · have hes : ∀ e ∈ es, e.kind = .progress := fun e h => hk e (List.mem_cons_of_mem _ h)
        rcases ih hb hes with ⟨c, hc⟩ | ⟨b', hb', hd⟩
        · refine .inl ⟨c, fun items => ?_⟩
          rw [List.map_cons, List.cons_append, drain_of_push hp, hc]
        · refine .inr ⟨b', hb', fun items => ?_⟩
          rw [List.map_cons, List.cons_append, drain_of_push hp, hd]

theorem finish_of_complete {stop : StopReason} (h : a.phase = .complete stop) :
    (∃ m, m.stop = stop ∧ finish ids a = .ok m) ∨ ∃ c, finish ids a = .error (.malformedCall c) := by
  rw [finish, h]
  cases FunctionTag.extract a.content.toList with
  | error e => exact .inr ⟨e, rfl⟩
  | ok p => exact .inl ⟨_, rfl, rfl⟩

theorem finish_of_streaming (h : a.phase = .streaming) : finish ids a = .error .canceled := by
  rw [finish, h]

theorem aggregate_start (ids : IdSupply) (es : List Event) :
    aggregate ids (.start :: es) = drain ids { phase := .streaming } (es.map .ok) := by
  rw [← aggregateStream_map_ok]
  exact drain_of_push (a := {}) (push_start rfl) (es.map .ok)

/-- The outcome of a whole turn: a message with the reason of its end, or malformed text of a
call. -/
theorem aggregate_turn (hk : ∀ e ∈ es, e.kind = .progress) (stop : StopReason) :
    (∃ m, m.stop = stop ∧ aggregate ids (.start :: (es ++ [.complete stop])) = .ok m) ∨
      ∃ c, aggregate ids (.start :: (es ++ [.complete stop])) = .error (.malformedCall c) := by
  rw [aggregate_start, List.map_append]
  rcases drain_progress (a := { phase := .streaming }) rfl hk with ⟨c, hc⟩ | ⟨b, hb, hd⟩
  · exact .inr ⟨c, hc _⟩
  · have hp : b.push ids (.complete stop) = proceed ids b (.complete stop) :=
      push_of_complete hb stop
    rw [hd]
    rcases proceed_spec ids b (.complete stop) with ⟨c, hc⟩ | ⟨b', -, hb'⟩
    · exact .inr ⟨c, drain_of_push_error (hp ▸ hc) _⟩
    · have hpush : b.push ids (.complete stop) = ({ b' with phase := .complete stop }, .ok ()) :=
        hp.trans hb'
      change (∃ m, m.stop = stop ∧ drain ids b [.ok (.complete stop)] = .ok m) ∨
        ∃ c, drain ids b [.ok (.complete stop)] = .error (.malformedCall c)
      rw [drain_of_push hpush]
      exact finish_of_complete rfl

end ChatTurn.Aggregator
