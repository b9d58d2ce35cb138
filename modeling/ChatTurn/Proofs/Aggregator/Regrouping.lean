import ChatTurn.Proofs.Aggregator.Delivery
import ChatTurn.Proofs.Aggregator.Journal
import ChatTurn.Proofs.Aggregator.Recovery
import ChatTurn.Proofs.Aggregator.Renaming
import Mathlib.Logic.Relation

namespace ChatTurn

def ParseStatus.IsOpen (st : ParseStatus) : Prop := st = .started ∨ st = .inProgress

/-- Two deltas, and the one that says the same as both in turn. -/
inductive Delta.Joins : Delta → Delta → Delta → Prop
  | text (s t : String) : Joins (.text s) (.text t) (.text (s ++ t))
  | fragment {u v w : ParseStatus} (hu : u.IsOpen) (hv : v.IsOpen) (hw : w.IsOpen) (s t : String) :
      Joins (.toolCall ⟨.text s, u⟩) (.toolCall ⟨.text t, v⟩) (.toolCall ⟨.text (s ++ t), w⟩)
  | last {u : ParseStatus} (hu : u.IsOpen) (v : ParseStatus) (s t : String) :
      Joins (.toolCall ⟨.text s, u⟩) (.toolCall ⟨.text t, v⟩) (.toolCall ⟨.text (s ++ t), v⟩)

inductive Delta.IsEmpty : Delta → Prop
  | text : IsEmpty (.text "")
  | fragment {u : ParseStatus} (hu : u.IsOpen) : IsEmpty (.toolCall ⟨.text "", u⟩)

def Underway (es : List Event) : Prop := es ≠ [] ∧ ∀ e ∈ es, e.kind ≠ .complete

/-- Events that can stand for each other wherever they are in a turn. -/
inductive Recut : List Event → List Event → Prop
  | joined {d d' whole : Delta} (h : d.Joins d' whole) (stop : Option StopReason) :
      Recut [⟨.progress, whole, stop⟩] [⟨.progress, d, none⟩, ⟨.progress, d', stop⟩]
  | opened {d d' whole : Delta} (h : d.Joins d' whole) (stop : Option StopReason) :
      Recut [⟨.start, whole, stop⟩] [⟨.start, d, stop⟩, ⟨.progress, d', none⟩]
  | stopped (s t : String) (r r' : StopReason) (stop : Option StopReason) :
      Recut [⟨.progress, .text (s ++ t), some r⟩]
        [⟨.progress, .text s, some r'⟩, ⟨.progress, .text t, stop⟩]
  | passed (s : String) {e : Event} (hk : e.kind = .progress) (ht : e.delta.text?.getD "" = "") :
      Recut [.text s, e] [e, .text s]

/-- Events that can stand for each other where the turn is underway. -/
inductive RecutUnderway : List Event → List Event → Prop
  | empty {d : Delta} (h : d.IsEmpty) : RecutUnderway [] [⟨.progress, d, none⟩]
  | joined {d d' whole : Delta} (h : d.Joins d' whole) (kind : EventKind)
      (stop : Option StopReason) :
      RecutUnderway [⟨kind, whole, stop⟩] [⟨.progress, d, none⟩, ⟨kind, d', stop⟩]
  | closed (s t : String) (r r' : StopReason) :
      RecutUnderway [⟨.complete, .text (s ++ t), some r⟩]
        [⟨.progress, .text s, some r'⟩, ⟨.complete, .text t, some r⟩]

/-- One change to how a turn is cut into events. -/
inductive Regroups : List Event → List Event → Prop
  | anywhere {xs ys : List Event} (h : Recut xs ys) (before after : List Event) :
      Regroups (before ++ xs ++ after) (before ++ ys ++ after)
  | underway {xs ys : List Event} (h : RecutUnderway xs ys) {before : List Event}
      (hu : Underway before) (after : List Event) :
      Regroups (before ++ xs ++ after) (before ++ ys ++ after)
  /-- No call is open where a turn begins, so no reason matters there. -/
  | begun (s t : String) (stop stop' stop'' : Option StopReason) (before after : List Event) :
      Regroups (before ++ [⟨.start, .text (s ++ t), stop⟩] ++ after)
        (before ++ [⟨.start, .text s, stop'⟩, ⟨.progress, .text t, stop''⟩] ++ after)

def Regrouped : List Event → List Event → Prop := Relation.EqvGen Regroups

theorem Event.rename_id (e : Event) : e.rename id = e := by
  obtain ⟨kind, delta, stop⟩ := e
  cases delta with
  | text s => rfl
  | toolCall d =>
      obtain ⟨payload, status⟩ := d
      cases payload <;> rfl

theorem SameButIds.refl (items : List StreamItem) : SameButIds items items := by
  refine ⟨id, fun _ _ _ _ he => he, ?_⟩
  have hitem : (fun item : StreamItem => item.map (Event.rename id)) = id := by
    funext item
    cases item with
    | error err => rfl
    | ok e => exact congrArg Except.ok e.rename_id
  rw [hitem, List.map_id]

namespace Aggregator

variable {ids : IdSupply} {a b : Aggregator} {d d' whole : Delta} {e : Event} {es xs ys : List Event}

def kept (r : Aggregator × Outcome) : Except Error Aggregator := r.2.map fun _ => r.1

def next (ids : IdSupply) (a : Aggregator) (e : Event) : Except Error Aggregator :=
  kept (a.push ids e)

def run (ids : IdSupply) (a : Aggregator) (es : List Event) : Except Error Aggregator :=
  es.foldlM (next ids) a

theorem run_append : run ids a (xs ++ ys) = (run ids a xs).bind (run ids · ys) :=
  List.foldlM_append

theorem run_cons : run ids a (e :: es) = (next ids a e).bind (run ids · es) := List.foldlM_cons

theorem run_singleton : run ids a [e] = next ids a e := bind_pure _

theorem run_pair {d : Event} : run ids a [e, d] = (next ids a e).bind (next ids · d) := by
  rw [run_cons]
  simp only [run_singleton]

theorem collect_eq_run (ids : IdSupply) (a : Aggregator) (es : List Event) :
    collect ids a es = (run ids a es).bind (finish ids) := by
  induction es generalizing a with
  | nil => rfl
  | cons e es ih =>
      rw [collect, run_cons, next]
      cases h : a.push ids e with
      | mk b result =>
          cases result with
          | error err => rfl
          | ok => exact ih b

theorem aggregate_eq_run (ids : IdSupply) (es : List Event) :
    aggregate ids es = (run ids {} es).bind (finish ids) := collect_eq_run ids {} es

def say (a : Aggregator) (s : String) : Aggregator := { a with content := a.content ++ s }

theorem say_append (a : Aggregator) (s t : String) : a.say (s ++ t) = (a.say s).say t := by
  simp only [say, String.append_assoc]

theorem say_empty (a : Aggregator) : a.say "" = a := by
  simp only [say, String.append_empty]

theorem deliver_say (a : Aggregator) (s : String) (c : ToolCall) :
    (a.say s).deliver c = (a.deliver c).say s := by
  have hcalls : (a.say s).calls = a.calls := rfl
  rw [deliver, deliver, hcalls]
  split
  · rfl
  · rfl

theorem restate_say (ids : IdSupply) (a : Aggregator) (s : String) (i : Invocation) :
    (a.say s).restate ids i = (a.restate ids i).say s := by
  have huncovered : (a.say s).uncovered = a.uncovered := rfl
  rw [restate, restate, huncovered]
  split
  · rfl
  · rfl

theorem foldl_restate_say (ids : IdSupply) (a : Aggregator) (s : String) (is : List Invocation) :
    is.foldl (restate ids) (a.say s) = (is.foldl (restate ids) a).say s := by
  induction is generalizing a with
  | nil => rfl
  | cons i is ih => rw [List.foldl_cons, List.foldl_cons, restate_say, ih]

theorem kept_resolvePending_say (ids : IdSupply) (a : Aggregator) (s : String) :
    kept (resolvePending ids (a.say s)) = (kept (resolvePending ids a)).map (·.say s) := by
  have hsay (c : Aggregator) : ({ c.say s with pending := "" } : Aggregator) =
      ({ c with pending := "" } : Aggregator).say s := rfl
  have hpending : (a.say s).pending = a.pending := rfl
  simp only [resolvePending, hpending, hsay]
  split
  · rfl
  · cases CallText.parse a.pending.toList with
    | error e => rfl
    | ok calls =>
        simp only [kept, foldl_restate_say]
        rfl

theorem kept_applyStop_say (ids : IdSupply) (a : Aggregator) (s : String)
    (stop : Option StopReason) :
    kept (applyStop ids (a.say s) stop) = (kept (applyStop ids a stop)).map (·.say s) := by
  cases stop with
  | none => rfl
  | some r => exact kept_resolvePending_say ids a s

theorem kept_applyCall_say (ids : IdSupply) (a : Aggregator) (s : String) (d : CallDelta) :
    kept (applyCall ids (a.say s) d) = (kept (applyCall ids a d)).map (·.say s) := by
  obtain ⟨payload, status⟩ := d
  cases payload with
  | text t =>
      cases status with
      | started | inProgress | failure => rfl
      | success => exact kept_resolvePending_say ids { a with pending := a.pending ++ t } s
  | call c =>
      cases status with
      | failure => rfl
      | started | inProgress => exact congrArg Except.ok (deliver_say a s c)
      | success => exact congrArg Except.ok (deliver_say { a with pending := "" } s c)

theorem next_of_progress (h : a.phase = .streaming) (he : e.kind = .progress) :
    next ids a e =
      (kept (applyDelta ids a e.delta)).bind fun b => kept (applyStop ids b e.stop) := by
  obtain ⟨kind, delta, stop⟩ := e
  cases he
  rw [next, push_of_progress h rfl, proceed]
  cases applyDelta ids a delta with
  | mk b result =>
      cases result with
      | error err => rfl
      | ok =>
          dsimp only [kept, Except.map, Except.bind]
          cases applyStop ids b stop with
          | mk c result => cases result <;> rfl

theorem next_of_start (h : a.phase = .awaiting) (he : e.kind = .start) :
    next ids a e = kept (applyDelta ids { a with phase := .streaming } e.delta) := by
  simp only [next, push, h, he]

theorem next_of_not_streaming (ids : IdSupply) (h : a.phase ≠ .streaming) :
    ∃ err, ∀ e : Event, e.kind = .progress → next ids a e = .error err := by
  cases hp : a.phase with
  | streaming => exact absurd hp h
  | awaiting => exact ⟨_, fun e he => by simp only [next, push, hp, he]; rfl⟩
  | complete stop => exact ⟨_, fun e he => by simp only [next, push, hp, he]; rfl⟩

theorem next_of_not_awaiting (ids : IdSupply) (h : a.phase ≠ .awaiting) :
    ∃ err, ∀ e : Event, e.kind = .start → next ids a e = .error err := by
  cases hp : a.phase with
  | awaiting => exact absurd hp h
  | streaming => exact ⟨_, fun e he => by simp only [next, push, hp, he]; rfl⟩
  | complete stop => exact ⟨_, fun e he => by simp only [next, push, hp, he]; rfl⟩

theorem run_of_error {err : Error} (h : next ids a e = .error err) :
    run ids a (e :: es) = .error err := by
  rw [run_cons, h]
  rfl

theorem next_text (h : a.phase = .streaming) (s : String) : next ids a (.text s) = .ok (a.say s) := by
  rw [next, push_text h]
  rfl

theorem applyDelta_of_joins (h : d.Joins d' whole) (ids : IdSupply) (a : Aggregator) :
    ∃ b : Aggregator, b.phase = a.phase ∧ applyDelta ids a d = (b, .ok ()) ∧
      applyDelta ids b d' = applyDelta ids a whole := by
  cases h with
  | text s t =>
      refine ⟨a.say s, rfl, rfl, ?_⟩
      simp only [applyDelta, say, String.append_assoc]
  | fragment hu hv hw s t =>
      refine ⟨{ a with pending := a.pending ++ s }, rfl, ?_, ?_⟩
      · rcases hu with rfl | rfl <;> rfl
      · rcases hv with rfl | rfl <;> rcases hw with rfl | rfl <;>
          simp only [applyDelta, applyCall, String.append_assoc]
  | last hu v s t =>
      refine ⟨{ a with pending := a.pending ++ s }, rfl, ?_, ?_⟩
      · rcases hu with rfl | rfl <;> rfl
      · cases v <;> simp only [applyDelta, applyCall, String.append_assoc]

theorem next_piece (h : a.phase = .streaming) (hd : applyDelta ids a d = (b, .ok ())) :
    next ids a ⟨.progress, d, none⟩ = .ok b := by
  rw [next_of_progress h rfl, hd]
  rfl

/-- Only the delta is of another cut, so what follows it is done alike. -/
theorem next_congr (ha : a.phase = .streaming) (hb : b.phase = .streaming)
    (h : applyDelta ids b d' = applyDelta ids a whole) (kind : EventKind)
    (stop : Option StopReason) : next ids b ⟨kind, d', stop⟩ = next ids a ⟨kind, whole, stop⟩ := by
  have hp : proceed ids b ⟨kind, d', stop⟩ = proceed ids a ⟨kind, whole, stop⟩ := by
    simp only [proceed, h]
    rfl
  cases kind with
  | start => simp only [next, push, ha, hb]; rfl
  | progress => simp only [next, push, ha, hb, hp]
  | complete =>
      cases stop with
      | none => simp only [next, push, ha, hb]; rfl
      | some r => simp only [next, push, ha, hb, hp]; rfl

theorem run_joined (h : d.Joins d' whole) (ha : a.phase = .streaming) (kind : EventKind)
    (stop : Option StopReason) :
    run ids a [⟨kind, whole, stop⟩] = run ids a [⟨.progress, d, none⟩, ⟨kind, d', stop⟩] := by
  obtain ⟨b, hb, hd, hw⟩ := applyDelta_of_joins h ids a
  rw [run_singleton, run_pair, next_piece ha hd]
  exact (next_congr ha (hb.trans ha) hw kind stop).symm

theorem kept_resolvePending (ids : IdSupply) (a : Aggregator) :
    (∃ err, kept (resolvePending ids a) = .error err) ∨
      ∃ b, kept (resolvePending ids a) = .ok b ∧ b.phase = a.phase ∧ b.pending = "" := by
  by_cases h : IsUnparsable a.pending.toList
  · have hmalformed : ∃ c, (resolvePending ids a).2 = .error (.malformedCall c) :=
      resolvePending_of_unparsable h
    obtain ⟨c, hc⟩ := hmalformed
    left
    exact ⟨_, by rw [kept, hc]; rfl⟩
  · right
    rw [resolvePending_of_parsable h]
    exact ⟨_, rfl, foldl_restate_phase _ _ _, foldl_restate_pending _ _ _⟩

theorem run_opened (h : d.Joins d' whole) (ids : IdSupply) (a : Aggregator)
    (stop : Option StopReason) :
    run ids a [⟨.start, whole, stop⟩] =
      run ids a [⟨.start, d, stop⟩, ⟨.progress, d', none⟩] := by
  by_cases ha : a.phase = .awaiting
  · obtain ⟨b, hb, hd, hw⟩ := applyDelta_of_joins h ids { a with phase := .streaming }
    have hstop (c : Aggregator) : kept (applyStop ids c none) = .ok c := rfl
    rw [run_singleton, run_pair, next_of_start ha rfl, next_of_start ha rfl, hd, ← hw]
    change _ = next ids b ⟨.progress, d', none⟩
    rw [next_of_progress hb rfl]
    simp only [hstop]
    cases kept (applyDelta ids b d') <;> rfl
  · obtain ⟨err, he⟩ := next_of_not_awaiting ids ha
    rw [run_of_error (he _ rfl), run_of_error (he _ rfl)]

theorem next_spoken (ha : a.phase = .streaming) (s : String) (stop : Option StopReason) :
    next ids a ⟨.progress, .text s, stop⟩ = (kept (applyStop ids a stop)).map (·.say s) := by
  rw [next_of_progress ha rfl, ← kept_applyStop_say]
  rfl

theorem next_closing (ha : a.phase = .streaming) (s : String) (r : StopReason) :
    next ids a ⟨.complete, .text s, some r⟩ =
      (kept (resolvePending ids a)).map fun b => { b.say s with phase := .complete r } := by
  have hpush : a.push ids ⟨.complete, .text s, some r⟩ =
      proceed ids a ⟨.complete, .text s, some r⟩ := by
    simp [push, ha]
  have hmap : next ids a ⟨.complete, .text s, some r⟩ =
      (kept (resolvePending ids (a.say s))).map ({ · with phase := .complete r }) := by
    have hd : applyDelta ids a (.text s) = (a.say s, .ok ()) := rfl
    rw [next, hpush, proceed, hd]
    dsimp only [applyStop]
    cases resolvePending ids (a.say s) with
    | mk b result => cases result <;> rfl
  rw [hmap, kept_resolvePending_say]
  cases kept (resolvePending ids a) <;> rfl

theorem run_stopped (ids : IdSupply) (ha : a.phase = .streaming) (s t : String)
    (r r' : StopReason) (stop : Option StopReason) :
    run ids a [⟨.progress, .text (s ++ t), some r⟩] =
      run ids a [⟨.progress, .text s, some r'⟩, ⟨.progress, .text t, stop⟩] := by
  rw [run_singleton, run_pair, next_spoken ha, next_spoken ha]
  dsimp only [applyStop]
  rcases kept_resolvePending ids a with ⟨err, he⟩ | ⟨b, hb, hphase, hpending⟩
  · rw [he]
    rfl
  · rw [hb]
    change Except.ok (b.say (s ++ t)) = next ids (b.say s) ⟨.progress, .text t, stop⟩
    rw [next_spoken (a := b.say s) (hphase.trans ha), applyStop_of_empty (a := b.say s) hpending,
      say_append]
    rfl

theorem run_closed (ids : IdSupply) (ha : a.phase = .streaming) (s t : String)
    (r r' : StopReason) :
    run ids a [⟨.complete, .text (s ++ t), some r⟩] =
      run ids a [⟨.progress, .text s, some r'⟩, ⟨.complete, .text t, some r⟩] := by
  rw [run_singleton, run_pair, next_spoken ha, next_closing ha]
  dsimp only [applyStop]
  rcases kept_resolvePending ids a with ⟨err, he⟩ | ⟨b, hb, hphase, hpending⟩
  · rw [he]
    rfl
  · rw [hb]
    change Except.ok { b.say (s ++ t) with phase := .complete r } =
      next ids (b.say s) ⟨.complete, .text t, some r⟩
    rw [next_closing (a := b.say s) (hphase.trans ha),
      resolvePending_of_empty (a := b.say s) hpending, say_append]
    rfl

theorem run_begun (ids : IdSupply) (ha : a.phase = .awaiting → a.pending = "") (s t : String)
    (stop stop' stop'' : Option StopReason) :
    run ids a [⟨.start, .text (s ++ t), stop⟩] =
      run ids a [⟨.start, .text s, stop'⟩, ⟨.progress, .text t, stop''⟩] := by
  by_cases h : a.phase = .awaiting
  · have hbegin : ∃ b : Aggregator, b.phase = .streaming ∧ b.pending = "" ∧
        ∀ u o, next ids a ⟨.start, .text u, o⟩ = .ok (b.say u) :=
      ⟨{ a with phase := .streaming }, rfl, ha h, fun u o => next_of_start h rfl⟩
    obtain ⟨b, hb, hp, hstart⟩ := hbegin
    rw [run_singleton, run_pair, hstart, hstart, say_append]
    change _ = next ids (b.say s) ⟨.progress, .text t, stop''⟩
    rw [next_spoken (a := b.say s) hb, applyStop_of_empty (a := b.say s) hp]
    rfl
  · obtain ⟨err, he⟩ := next_of_not_awaiting ids h
    rw [run_of_error (he _ rfl), run_of_error (he _ rfl)]

theorem next_say (ha : a.phase = .streaming) (s : String) (hk : e.kind = .progress)
    (ht : e.delta.text?.getD "" = "") : next ids (a.say s) e = (next ids a e).map (·.say s) := by
  have hd : kept (applyDelta ids (a.say s) e.delta) =
      (kept (applyDelta ids a e.delta)).map (·.say s) := by
    cases hdelta : e.delta with
    | text t =>
        rw [hdelta] at ht
        obtain rfl : t = "" := ht
        change Except.ok ((a.say s).say "") = Except.ok ((a.say "").say s)
        rw [say_empty, say_empty]
    | toolCall d => exact kept_applyCall_say ids a s d
  rw [next_of_progress ha hk, next_of_progress (a := a.say s) ha hk, hd]
  cases kept (applyDelta ids a e.delta) with
  | error err => rfl
  | ok b => exact kept_applyStop_say ids b s e.stop

theorem next_progress (ids : IdSupply) (ha : a.phase = .streaming) (hk : e.kind = .progress) :
    (∃ err, next ids a e = .error err) ∨ ∃ b, next ids a e = .ok b ∧ b.phase = .streaming := by
  rcases push_progress ids ha hk with ⟨c, hc⟩ | ⟨b, hb, hp⟩
  · left
    exact ⟨_, by rw [next, kept, hc]; rfl⟩
  · right
    exact ⟨b, by rw [next, hp]; rfl, hb⟩

theorem run_passed (ids : IdSupply) (ha : a.phase = .streaming) (s : String)
    (hk : e.kind = .progress) (ht : e.delta.text?.getD "" = "") :
    run ids a [.text s, e] = run ids a [e, .text s] := by
  rw [run_pair, run_pair, next_text ha]
  change next ids (a.say s) e = _
  rw [next_say ha s hk ht]
  rcases next_progress ids ha hk with ⟨err, he⟩ | ⟨b, hb, hphase⟩
  · rw [he]
    rfl
  · rw [hb]
    exact (next_text hphase s).symm

/-- Events that can stand for each other come to the same, whatever came before them. -/
theorem run_recut (h : Recut xs ys) (ids : IdSupply) (a : Aggregator) :
    run ids a xs = run ids a ys := by
  by_cases ha : a.phase = .streaming
  · cases h with
    | joined h stop => exact run_joined h ha .progress stop
    | opened h stop => exact run_opened h ids a stop
    | stopped s t r r' stop => exact run_stopped ids ha s t r r' stop
    | passed s hk ht => exact run_passed ids ha s hk ht
  · obtain ⟨err, he⟩ := next_of_not_streaming ids ha
    cases h with
    | joined h stop => rw [run_of_error (he _ rfl), run_of_error (he _ rfl)]
    | opened h stop => exact run_opened h ids a stop
    | stopped s t r r' stop => rw [run_of_error (he _ rfl), run_of_error (he _ rfl)]
    | passed s hk ht => rw [run_of_error (he _ rfl), run_of_error (he _ hk)]

theorem run_recutUnderway (h : RecutUnderway xs ys) (ids : IdSupply) (ha : a.phase = .streaming) :
    run ids a xs = run ids a ys := by
  cases h with
  | joined h kind stop => exact run_joined h ha kind stop
  | closed s t r r' => exact run_closed ids ha s t r r'
  | empty h =>
      cases h with
      | text =>
          have hsay : next ids a (.text "") = .ok (a.say "") := next_text ha ""
          rw [say_empty] at hsay
          exact (run_singleton.trans hsay).symm
      | fragment hu =>
          have happend : ({ a with pending := a.pending ++ "" } : Aggregator) = a := by
            rw [String.append_empty]
          have hd (u : ParseStatus) (hu : u.IsOpen) :
              applyDelta ids a (.toolCall ⟨.text "", u⟩) = (a, .ok ()) := by
            rcases hu with rfl | rfl <;> simp only [applyDelta, applyCall, happend]
          exact (run_singleton.trans (next_piece ha (hd _ hu))).symm

theorem next_ne_awaiting (h : next ids a e = .ok b) : b.phase ≠ .awaiting := by
  intro hb
  rw [next, kept] at h
  rcases push_cases ids a e with ⟨hn, -⟩ | ⟨⟨c, hc⟩, -⟩ | ⟨hok, hn⟩
  · obtain ⟨v, hv⟩ := push_of_violation ids hn
    rw [hv] at h
    cases h
  · rw [hc] at h
    cases h
  · rw [hok] at h
    cases h
    rw [hb] at hn
    cases ha : a.phase with
    | awaiting =>
        rw [ha] at hn
        cases (next?_awaiting_iff.1 hn).2
    | streaming =>
        rw [ha] at hn
        rcases next?_streaming_iff.1 hn with ⟨-, hp⟩ | ⟨stop, -, -, hp⟩ <;> cases hp
    | complete stop =>
        rw [ha] at hn
        cases hn

theorem pending_of_awaiting (h : run ids {} es = .ok a) (ha : a.phase = .awaiting) :
    a.pending = "" := by
  rcases List.eq_nil_or_concat es with rfl | ⟨es, e, rfl⟩
  · cases h
    rfl
  · rw [List.concat_eq_append, run_append] at h
    cases hr : run ids {} es with
    | error err =>
        rw [hr] at h
        cases h
    | ok b =>
        rw [hr] at h
        exact absurd ha (next_ne_awaiting (run_singleton.symm.trans h))

theorem run_streaming (ids : IdSupply) (ha : a.phase = .streaming)
    (hes : ∀ e ∈ es, e.kind ≠ .complete) :
    (∃ err, run ids a es = .error err) ∨ ∃ b, run ids a es = .ok b ∧ b.phase = .streaming := by
  induction es generalizing a with
  | nil => exact .inr ⟨a, rfl, ha⟩
  | cons e es ih =>
      obtain ⟨he, hes⟩ := List.forall_mem_cons.1 hes
      cases hk : e.kind with
      | complete => exact absurd hk he
      | start =>
          have hne : a.phase ≠ .awaiting := by
            rw [ha]
            exact nofun
          obtain ⟨err, herr⟩ := next_of_not_awaiting ids hne
          exact .inl ⟨err, run_of_error (herr e hk)⟩
      | progress =>
          rcases next_progress ids ha hk with ⟨err, herr⟩ | ⟨b, hb, hphase⟩
          · exact .inl ⟨err, run_of_error herr⟩
          · rw [run_cons, hb]
            exact ih hphase hes

theorem run_underway (ids : IdSupply) (h : Underway es) :
    (∃ err, run ids {} es = .error err) ∨ ∃ a, run ids {} es = .ok a ∧ a.phase = .streaming := by
  obtain ⟨hne, hes⟩ := h
  cases es with
  | nil => exact absurd rfl hne
  | cons e es =>
      by_cases hk : e.kind = .start
      · have hnext : next ids {} e = kept (applyDelta ids { phase := .streaming } e.delta) :=
          next_of_start rfl hk
        have hadvances := applyDelta_advances ids { phase := .streaming } e.delta
        cases hd : applyDelta ids { phase := .streaming } e.delta with
        | mk a result =>
            rw [hd] at hnext hadvances
            rcases hadvances with ⟨hr, hphase⟩ | ⟨c, hr⟩
            · cases hr
              rw [run_cons, hnext]
              exact run_streaming ids hphase (List.forall_mem_cons.1 hes).2
            · cases hr
              exact .inl ⟨_, run_of_error hnext⟩
      · left
        refine ⟨.protocol (.beforeStart e.kind), run_of_error ?_⟩
        cases hkind : e.kind with
        | start => exact absurd hkind hk
        | progress | complete => simp only [next, push, hkind]; rfl

theorem run_regrouped (h : Regrouped xs ys) (ids : IdSupply) : run ids {} xs = run ids {} ys := by
  induction h with
  | refl xs => rfl
  | symm xs ys h ih => exact ih.symm
  | trans xs ys zs h h' ih ih' => exact ih.trans ih'
  | rel xs ys h =>
      cases h with
      | anywhere h before after =>
          simp only [run_append]
          cases run ids {} before with
          | error err => rfl
          | ok a => exact congrArg (Except.bind · (run ids · after)) (run_recut h ids a)
      | underway h hu after =>
          simp only [run_append]
          rcases run_underway ids hu with ⟨err, he⟩ | ⟨a, ha, hphase⟩
          · rw [he]
            rfl
          · rw [ha]
            exact congrArg (Except.bind · (run ids · after)) (run_recutUnderway h ids hphase)
      | begun s t stop stop' stop'' before after =>
          simp only [run_append]
          cases ha : run ids {} before with
          | error err => rfl
          | ok a =>
              exact congrArg (Except.bind · (run ids · after))
                (run_begun ids (pending_of_awaiting ha) s t stop stop' stop'')

/-- Turns that are cut up in two ways come to one outcome under each supply of ids, and under two
fresh supplies to outcomes that differ in ids alone. -/
theorem aggregate_of_regrouped (h : Regrouped xs ys) :
    (∀ ids, aggregate ids xs = aggregate ids ys) ∧
    ∀ ids ids', IsFresh ids (xs.map .ok) → IsFresh ids' (xs.map .ok) →
      anonymous (aggregate ids xs) = anonymous (aggregate ids' ys) := by
  have hsame (ids : IdSupply) : aggregate ids xs = aggregate ids ys := by
    rw [aggregate_eq_run, aggregate_eq_run, run_regrouped h]
  refine ⟨hsame, fun ids ids' hids hids' => ?_⟩
  rw [← hsame ids', ← aggregateStream_map_ok, ← aggregateStream_map_ok]
  exact anonymous_aggregateStream (.refl _) hids hids'

def entire (prose call : String) : List Event :=
  [.start, .text prose, .fragment call .started, .complete .endOfTurn]

/-- Prose and the text of a call in halves, with the first half of the call between those of the
prose. -/
def interleaved (s t u v : String) : List Event :=
  [.start, .text s, .fragment u .inProgress, .text "", .text t, .fragment v .started,
    .complete .endOfTurn]

theorem regrouped_interleaved (s t u v : String) :
    Regrouped (entire (s ++ t) (u ++ v)) (interleaved s t u v) := by
  have hprose : Regroups (entire (s ++ t) (u ++ v))
      [.start, .text s, .text t, .fragment (u ++ v) .started, .complete .endOfTurn] :=
    .anywhere (.joined (.text s t) none) [.start]
      [.fragment (u ++ v) .started, .complete .endOfTurn]
  have hcall : Regroups
      [.start, .text s, .text t, .fragment (u ++ v) .started, .complete .endOfTurn]
      [.start, .text s, .text t, .fragment u .inProgress, .fragment v .started,
        .complete .endOfTurn] :=
    .anywhere (.joined (.fragment (.inr rfl) (.inl rfl) (.inl rfl) u v) none)
      [.start, .text s, .text t] [.complete .endOfTurn]
  have hpassed : Regroups
      [.start, .text s, .text t, .fragment u .inProgress, .fragment v .started,
        .complete .endOfTurn]
      [.start, .text s, .fragment u .inProgress, .text t, .fragment v .started,
        .complete .endOfTurn] :=
    .anywhere (.passed t rfl rfl) [.start, .text s] [.fragment v .started, .complete .endOfTurn]
  have hunderway : Underway [.start, .text s, .fragment u .inProgress] :=
    ⟨List.cons_ne_nil _ _, by simp [Event.start, Event.text, Event.fragment]⟩
  have hempty : Regroups
      [.start, .text s, .fragment u .inProgress, .text t, .fragment v .started,
        .complete .endOfTurn] (interleaved s t u v) :=
    .underway (.empty .text) hunderway [.text t, .fragment v .started, .complete .endOfTurn]
  exact .trans _ _ _ (.rel _ _ hprose) (.trans _ _ _ (.rel _ _ hcall)
    (.trans _ _ _ (.rel _ _ hpassed) (.rel _ _ hempty)))

/-- A tag and the text of a call, both cut in two. -/
theorem aggregate_of_regrouped_interleaved :
    Regrouped (entire "Hi <function=a>\x7b\x7d</function>" "[b(x=1)]")
      (interleaved "Hi <func" "tion=a>\x7b\x7d</function>" "[b(" "x=1)]") ∧
    aggregate .strokes (entire "Hi <function=a>\x7b\x7d</function>" "[b(x=1)]") =
      aggregate .strokes (interleaved "Hi <func" "tion=a>\x7b\x7d</function>" "[b(" "x=1)]") ∧
    anonymous (aggregate .strokes (entire "Hi <function=a>\x7b\x7d</function>" "[b(x=1)]")) =
      anonymous (aggregate IdSupply.strokes.odd
        (interleaved "Hi <func" "tion=a>\x7b\x7d</function>" "[b(" "x=1)]")) ∧
    (anonymous (aggregate .strokes (entire "Hi <function=a>\x7b\x7d</function>" "[b(x=1)]"))).map
      (fun m => (m.1, m.2.2.map (·.name.text))) = .ok ("Hi", ["b", "a"]) := by
  have h : Regrouped (entire "Hi <function=a>\x7b\x7d</function>" "[b(x=1)]") _ :=
    regrouped_interleaved "Hi <func" "tion=a>\x7b\x7d</function>" "[b(" "x=1)]"
  obtain ⟨hsame, hfresh⟩ := aggregate_of_regrouped h
  exact ⟨h, hsame _, hfresh _ _ (fun n => List.not_mem_nil) (fun n => List.not_mem_nil),
    by decide +kernel⟩

end Aggregator

end ChatTurn
