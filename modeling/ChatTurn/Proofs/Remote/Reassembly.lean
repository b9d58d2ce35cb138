import ChatTurn.Proofs.Remote.Resolution

namespace ChatTurn.Remote

def firstChoices (chunks : List Chunk) : List Choice :=
  chunks.flatMap fun c => c.choices.filter (·.index = 0)

def Choice.fragments (c : Choice) : List CallFragment := c.delta.calls.getD []

def fragmentsOf (cs : List Choice) : List CallFragment := cs.flatMap Choice.fragments

def contentOf (cs : List Choice) : List Char := cs.flatMap fun c => (c.delta.content.getD "").toList

/-- The first reason to stop, or the end of the turn where there is none. -/
def stopOf (cs : List Choice) : StopReason :=
  ((cs.findSome? (·.finishReason)).map stopReason).getD .endOfTurn

/-- No fragments come after a reason to stop. -/
def Orderly (cs : List Choice) : Prop :=
  ∀ before c after, cs = before ++ c :: after → c.finishReason.isSome = true →
    ∀ d ∈ after, d.fragments = []

namespace Turn

def onAll (ids : IdSupply) (t : Turn) : List Chunk → Turn × List Event
  | [] => (t, [])
  | c :: cs =>
    let r := onAll ids (t.onChunk ids c).1 cs
    (r.1, (t.onChunk ids c).2 ++ r.2)

def events (ids : IdSupply) (chunks : List Chunk) : List Event :=
  let r := onAll ids {} chunks
  r.2 ++ (r.1.onDone ids).2

variable {ids : IdSupply} {t : Turn} {fs : List CallFragment} {cs : List Choice}

theorem onChoices_cons (t : Turn) (c : Choice) (cs : List Choice) :
    t.onChoices ids (c :: cs) = (((t.onChoice ids c).1.onChoices ids cs).1,
      (t.onChoice ids c).2 ++ ((t.onChoice ids c).1.onChoices ids cs).2) := rfl

theorem onChoices_append (t : Turn) (cs ds : List Choice) :
    t.onChoices ids (cs ++ ds) =
      (((t.onChoices ids cs).1.onChoices ids ds).1,
        (t.onChoices ids cs).2 ++ ((t.onChoices ids cs).1.onChoices ids ds).2) := by
  induction cs generalizing t with
  | nil => rfl
  | cons c cs ih => simp only [List.cons_append, onChoices, ih, List.append_assoc]

def Live (t : Turn) : Prop := t.started = true ∧ t.completed = false

theorem Live.onFragments (h : t.Live) (fs : List CallFragment) : (t.onFragments fs).1.Live := by
  induction fs generalizing t with
  | nil => exact h
  | cons f fs ih => exact ih (t := (t.onFragment f).1) h

theorem Live.onStop (h : t.Live) (stop : StopReason) : (t.onStop ids stop).1.Live := by
  rw [Turn.onStop]
  split <;> exact h

theorem Live.onChoice (h : t.Live) (c : Choice) : (t.onChoice ids c).1.Live := by
  rw [Turn.onChoice]
  cases c.finishReason with
  | none => exact h.onFragments _
  | some reason => exact (h.onFragments _).onStop _

theorem Live.onChoices (h : t.Live) (cs : List Choice) : (t.onChoices ids cs).1.Live := by
  induction cs generalizing t with
  | nil => exact h
  | cons c cs ih => exact ih (h.onChoice c)

theorem Live.onChunk_eq (h : t.Live) (c : Chunk) :
    t.onChunk ids c = t.onChoices ids (c.choices.filter (·.index = 0)) := by
  rw [Turn.onChunk, Turn.start, h.1]
  simp [h.2]

theorem Live.onAll_eq (h : t.Live) (chunks : List Chunk) :
    t.onAll ids chunks = t.onChoices ids (firstChoices chunks) := by
  induction chunks generalizing t with
  | nil => rfl
  | cons c chunks ih =>
      have hc : (t.onChoices ids (c.choices.filter (·.index = 0))).1.Live := h.onChoices _
      have hf : firstChoices (c :: chunks) =
          c.choices.filter (·.index = 0) ++ firstChoices chunks := List.flatMap_cons
      rw [Turn.onAll, h.onChunk_eq, ih hc, hf, onChoices_append]

def closing (ids : IdSupply) (t : Turn) : List Event :=
  (t.onStop ids .endOfTurn).2 ++ [.complete ((t.onStop ids .endOfTurn).1.stop.getD .endOfTurn)]

theorem Live.onDone_eq (h : t.Live) : (t.onDone ids).2 = t.closing ids := by
  rw [Turn.onDone, Turn.start, h.1]
  simp [h.2, closing]

def opened : Turn := { started := true }

theorem opened_pending : opened.pending = table [] := rfl

theorem events_eq (ids : IdSupply) (chunks : List Chunk) :
    events ids chunks = .start :: ((opened.onChoices ids (firstChoices chunks)).2 ++
      (opened.onChoices ids (firstChoices chunks)).1.closing ids) := by
  have hl : opened.Live := ⟨rfl, rfl⟩
  have h : events ids chunks =
      .start :: ((opened.onAll ids chunks).2 ++ ((opened.onAll ids chunks).1.onDone ids).2) := by
    cases chunks <;> rfl
  have hd : ((opened.onChoices ids (firstChoices chunks)).1.onDone ids).2 =
      (opened.onChoices ids (firstChoices chunks)).1.closing ids := (hl.onChoices _).onDone_eq
  rw [h, hl.onAll_eq, hd]

/-- Events that pass on the content of choices, and nothing more unless there are fragments. -/
structure Conveys (cs : List Choice) (es : List Event) : Prop where
  isOpen : ∀ e ∈ es, e.isOpen = true
  prose : Event.prose es = contentOf cs
  isText : fragmentsOf cs = [] → ∀ e ∈ es, e.isText = true

theorem Conveys.nil : Conveys [] [] :=
  ⟨List.forall_mem_nil _, rfl, fun _ => List.forall_mem_nil _⟩

theorem Conveys.append {ds : List Choice} {es gs : List Event} (h : Conveys cs es)
    (h' : Conveys ds gs) : Conveys (cs ++ ds) (es ++ gs) := by
  refine ⟨?_, ?_, ?_⟩
  · exact List.forall_mem_append.2 ⟨h.isOpen, h'.isOpen⟩
  · rw [Event.prose_append, h.prose, h'.prose]
    exact List.flatMap_append.symm
  · intro hn
    obtain ⟨hc, hd⟩ := List.append_eq_nil_iff.1 (List.flatMap_append.symm.trans hn)
    exact List.forall_mem_append.2 ⟨h.isText hc, h'.isText hd⟩

theorem onFragments_cons (t : Turn) (f : CallFragment) (fs : List CallFragment) :
    t.onFragments (f :: fs) = (((t.onFragment f).1.onFragments fs).1,
      (t.onFragment f).2 :: ((t.onFragment f).1.onFragments fs).2) := rfl

theorem onFragments_eq (h : t.pending = table fs) (gs : List CallFragment) :
    ∃ es, t.onFragments gs = ({ t with pending := table (fs ++ gs) }, es) ∧
      (∀ e ∈ es, e.isOpen = true) ∧ Event.prose es = [] ∧ (gs = [] → es = []) := by
  induction gs generalizing t fs with
  | nil =>
      refine ⟨[], ?_, List.forall_mem_nil _, rfl, fun _ => rfl⟩
      rw [List.append_nil, ← h]
      rfl
  | cons g gs ih =>
      have hg : (t.onFragment g).1.pending = table (fs ++ [g]) := by
        rw [← addFragment_table, ← h]
        rfl
      obtain ⟨es, he, ho, hp, -⟩ := ih hg
      refine ⟨(t.onFragment g).2 :: es, ?_, ?_, ?_, fun hn => nomatch hn⟩
      · rw [onFragments_cons, he, List.append_assoc]
        rfl
      · refine List.forall_mem_cons.2 ⟨?_, ho⟩
        rw [onFragment]
        split <;> rfl
      · exact hp

theorem onContent_isText (content : Option String) : ∀ e ∈ onContent content, e.isText = true := by
  intro e he
  cases content with
  | none => cases he
  | some s => exact Event.isText_of_mem_ite he

theorem prose_onContent (content : Option String) :
    Event.prose (onContent content) = (content.getD "").toList := by
  cases content with
  | none => rfl
  | some s =>
      rw [onContent]
      split
      · next h =>
          rw [String.isEmpty_iff.1 h]
          rfl
      · simp

theorem conveys_onContent (h : t.pending = table fs) (c : Choice) :
    ∃ es, Conveys [c] (onContent c.delta.content ++ es) ∧
      t.onFragments (c.delta.calls.getD []) =
        ({ t with pending := table (fs ++ c.fragments) }, es) := by
  obtain ⟨es, he, ho, hp, hn⟩ := onFragments_eq h c.fragments
  refine ⟨es, ⟨?_, ?_, ?_⟩, he⟩
  · exact List.forall_mem_append.2
      ⟨fun e he => Event.isOpen_of_isText (onContent_isText _ e he), ho⟩
  · rw [Event.prose_append, prose_onContent, hp]
    rfl
  · intro hf e he
    have hc : c.fragments = [] := (List.append_nil c.fragments).symm.trans hf
    rw [hn hc, List.append_nil] at he
    exact onContent_isText _ e he

theorem onChoice_unfinished (ids : IdSupply) (h : t.pending = table fs) {c : Choice}
    (hc : c.finishReason = none) :
    ∃ es, Conveys [c] es ∧
      t.onChoice ids c = ({ t with pending := table (fs ++ c.fragments) }, es) := by
  obtain ⟨es, hes, he⟩ := conveys_onContent h c
  refine ⟨_, hes, ?_⟩
  rw [onChoice, he, hc]
  simp

theorem onChoice_finishing (ids : IdSupply) (h : t.pending = table fs) (ht : t.stop = none)
    {c : Choice} {reason : String} (hc : c.finishReason = some reason) :
    ∃ es, Conveys [c] es ∧
      t.onChoice ids c = ({ t with pending := [], stop := some (stopReason reason) },
        es ++ resolutions ids (stopReason reason) 0 ((table (fs ++ c.fragments)).map Prod.snd)) := by
  obtain ⟨es, hes, he⟩ := conveys_onContent h c
  refine ⟨_, hes, ?_⟩
  rw [onChoice, he, hc]
  simp [onStop, ht]

theorem onChoice_stopped {stop : StopReason} (ht : t.stop = some stop) {c : Choice}
    (hc : c.fragments = []) :
    t.onChoice ids c = (t, onContent c.delta.content) := by
  have hf : c.delta.calls.getD [] = [] := hc
  rw [onChoice, hf, onFragments]
  cases c.finishReason with
  | none => simp
  | some reason => simp [onStop, ht]

theorem onChoices_unfinished (ids : IdSupply) (h : t.pending = table fs)
    (hc : ∀ c ∈ cs, c.finishReason = none) :
    ∃ es, Conveys cs es ∧
      t.onChoices ids cs = ({ t with pending := table (fs ++ fragmentsOf cs) }, es) := by
  induction cs generalizing t fs with
  | nil =>
      refine ⟨[], .nil, ?_⟩
      rw [fragmentsOf, List.flatMap_nil, List.append_nil, ← h]
      rfl
  | cons c cs ih =>
      obtain ⟨es, hes, he⟩ := onChoice_unfinished ids h (hc c List.mem_cons_self)
      obtain ⟨gs, hgs, hg⟩ := ih (t := { t with pending := table (fs ++ c.fragments) }) rfl
        fun d hd => hc d (List.mem_cons_of_mem c hd)
      refine ⟨es ++ gs, hes.append hgs, ?_⟩
      simp only [onChoices, he, hg]
      simp [fragmentsOf]

theorem onChoices_stopped (ids : IdSupply) {stop : StopReason} (ht : t.stop = some stop)
    (hc : ∀ c ∈ cs, c.fragments = []) :
    ∃ es, t.onChoices ids cs = (t, es) ∧ (∀ e ∈ es, e.isText = true) ∧
      Event.prose es = contentOf cs := by
  induction cs with
  | nil => exact ⟨[], rfl, List.forall_mem_nil _, rfl⟩
  | cons c cs ih =>
      obtain ⟨es, he, ho, hp⟩ := ih fun d hd => hc d (List.mem_cons_of_mem c hd)
      refine ⟨onContent c.delta.content ++ es, ?_, ?_, ?_⟩
      · simp only [onChoices, onChoice_stopped ht (hc c List.mem_cons_self), he]
      · exact List.forall_mem_append.2 ⟨onContent_isText _, ho⟩
      · rw [Event.prose_append, prose_onContent, hp]
        rfl

theorem finish_split (cs : List Choice) :
    (∀ c ∈ cs, c.finishReason = none) ∨
      ∃ before c after reason, cs = before ++ c :: after ∧
        (∀ d ∈ before, d.finishReason = none) ∧ c.finishReason = some reason := by
  induction cs with
  | nil => exact .inl (List.forall_mem_nil _)
  | cons c cs ih =>
      cases hc : c.finishReason with
      | some reason => exact .inr ⟨[], c, cs, reason, rfl, List.forall_mem_nil _, hc⟩
      | none =>
          rcases ih with hn | ⟨before, d, after, reason, rfl, hb, hd⟩
          · exact .inl (List.forall_mem_cons.2 ⟨hc, hn⟩)
          · exact .inr ⟨c :: before, d, after, reason, rfl, List.forall_mem_cons.2 ⟨hc, hb⟩, hd⟩

/-- What a turn brings: open events, the events of its calls, more content, and completion. -/
structure Brings (ids : IdSupply) (cs : List Choice) (all es gs : List Event) : Prop where
  eq : all = es ++ (resolutions ids (stopOf cs) 0 ((table (fragmentsOf cs)).map Prod.snd) ++
    (gs ++ [.complete (stopOf cs)]))
  isOpen : ∀ e ∈ es, e.isOpen = true
  isText : ∀ e ∈ gs, e.isText = true
  prose : Event.prose es ++ Event.prose gs = contentOf cs
  silent : fragmentsOf cs = [] → Event.fragments es = []

theorem brings_unfinished (ids : IdSupply) (hc : ∀ c ∈ cs, c.finishReason = none) :
    ∃ es gs, Brings ids cs ((opened.onChoices ids cs).2 ++ (opened.onChoices ids cs).1.closing ids)
      es gs := by
  obtain ⟨es, hes, he⟩ := onChoices_unfinished ids opened_pending hc
  have hs : stopOf cs = .endOfTurn := by
    rw [stopOf, List.findSome?_eq_none_iff.2 hc]
    rfl
  refine ⟨es, [], ?_, hes.isOpen, List.forall_mem_nil _, ?_, ?_⟩
  · rw [he, hs]
    rfl
  · rw [Event.prose_nil, List.append_nil, hes.prose]
  · exact fun hn => Event.fragments_of_text (hes.isText hn)

theorem brings_finished (ids : IdSupply) {before after : List Choice} {c : Choice} {reason : String}
    (hb : ∀ d ∈ before, d.finishReason = none) (hc : c.finishReason = some reason)
    (ha : ∀ d ∈ after, d.fragments = []) :
    ∃ es gs, Brings ids (before ++ c :: after)
      ((opened.onChoices ids (before ++ c :: after)).2 ++
        (opened.onChoices ids (before ++ c :: after)).1.closing ids) es gs := by
  obtain ⟨es, hes, he⟩ := onChoices_unfinished ids opened_pending hb
  obtain ⟨ds, hds, hd⟩ := onChoice_finishing ids
    (t := { opened with pending := table ([] ++ fragmentsOf before) }) rfl rfl hc
  obtain ⟨gs, hg, hgt, hgp⟩ := onChoices_stopped ids
    (t := { opened with pending := [], stop := some (stopReason reason) }) rfl ha
  have hs : stopOf (before ++ c :: after) = stopReason reason := by
    rw [stopOf, List.findSome?_append, List.findSome?_eq_none_iff.2 hb, List.findSome?_cons, hc]
    rfl
  have hn : fragmentsOf after = [] := List.flatMap_eq_nil_iff.2 ha
  have hf : fragmentsOf (before ++ c :: after) = fragmentsOf before ++ c.fragments := by
    have h : fragmentsOf (before ++ c :: after) =
        fragmentsOf before ++ (c.fragments ++ fragmentsOf after) := by simp [fragmentsOf]
    rw [h, hn, List.append_nil]
  have hes' := hes.append hds
  have hsingle : fragmentsOf (before ++ [c]) = fragmentsOf before ++ c.fragments := by
    simp [fragmentsOf]
  refine ⟨es ++ ds, gs, ?_, hes'.isOpen, hgt, ?_, ?_⟩
  · rw [hs, hf, onChoices_append, he, onChoices_cons, hd, hg]
    simp [closing, onStop]
  · rw [hes'.prose, hgp]
    simp [contentOf]
  · rw [hf, ← hsingle]
    exact fun hn => Event.fragments_of_text (hes'.isText hn)

theorem Orderly.brings (ids : IdSupply) (h : Orderly cs) :
    ∃ es gs, Brings ids cs ((opened.onChoices ids cs).2 ++ (opened.onChoices ids cs).1.closing ids)
      es gs := by
  rcases finish_split cs with hn | ⟨before, c, after, reason, rfl, hb, hc⟩
  · exact brings_unfinished ids hn
  · refine brings_finished ids hb hc (h before c after rfl ?_)
    rw [hc]
    rfl

theorem map_snd_table (fs : List CallFragment) :
    (table fs).map Prod.snd = (indices fs).map (callAt · fs) := by
  rw [table, List.map_map]
  rfl

theorem aggregate_of_malformed {all es gs : List Event} (h : Brings ids cs all es gs)
    (hm : ∃ f ∈ fragmentsOf cs, IsMalformed (fragmentsOf cs) f.index) (agg : IdSupply) :
    ∃ c, aggregate agg (.start :: all) = .error (.malformedCall c) := by
  obtain ⟨f, hf, hm⟩ := hm
  obtain ⟨before, stop?, after, hr, hk⟩ := resolutions_of_malformed ids
    (mem_indices.2 ⟨f, hf, rfl⟩) hm (stopOf cs) 0
  have he : all = (es ++ before) ++ .failure stop? :: (after ++ (gs ++ [.complete (stopOf cs)])) := by
    rw [h.eq, map_snd_table, hr]
    simp
  rw [he]
  refine Aggregator.aggregate_of_failure (List.forall_mem_append.2 ⟨fun e he => ?_, hk⟩) stop? _
  exact Event.kind_of_isOpen (h.isOpen e he)

theorem aggregate_of_distinct {all es gs : List Event} (h : Brings ids cs all es gs)
    (hn : ((meantCalls ids (fragmentsOf cs) 0 (indices (fragmentsOf cs))).map (·.id)).Nodup)
    (ht : ¬ FunctionTag.opening <:+: contentOf cs)
    (hw : ∀ f ∈ fragmentsOf cs, ¬ IsMalformed (fragmentsOf cs) f.index) (agg : IdSupply) :
    aggregate agg (.start :: all) = .ok ⟨String.ofList
      (if (indices (fragmentsOf cs)).isEmpty then contentOf cs else Text.trimEnd (contentOf cs)),
      stopOf cs, meantCalls ids (fragmentsOf cs) 0 (indices (fragmentsOf cs))⟩ := by
  have hwi : ∀ i ∈ indices (fragmentsOf cs), ¬ IsMalformed (fragmentsOf cs) i := by
    intro i hi
    obtain ⟨f, hf, rfl⟩ := mem_indices.1 hi
    exact hw f hf
  obtain ⟨hr, hd⟩ := resolutions_of_wellFormed ids 0 hwi (stopOf cs)
  have hsilent : resolutions ids (stopOf cs) 0
      ((indices (fragmentsOf cs)).map (callAt · (fragmentsOf cs))) = [] →
        Event.fragments es = [] := by
    intro hn
    apply h.silent
    cases hi : indices (fragmentsOf cs) with
    | nil => exact indices_eq_nil_iff.1 hi
    | cons i is =>
        rw [hi] at hn
        cases hn
  have ha := Aggregator.aggregate_delivered agg h.isOpen hr h.isText hsilent (hd ▸ hn) (stopOf cs)
  rw [h.eq, map_snd_table, ha, Aggregator.finish_of_untagged rfl]
  · simp only [hd, h.prose, isEmpty_meantCalls, String.toList_ofList]
  · rw [String.toList_ofList, h.prose]
    exact ht

theorem aggregate_of_wellFormed {all es gs : List Event} (h : Brings ids cs all es gs)
    (hids : Function.Injective ids)
    (hgiven : ∀ i j, i ≠ j → ∀ id, idAt i (fragmentsOf cs) = some id →
      idAt j (fragmentsOf cs) ≠ some id)
    (hnew : ∀ i k, idAt i (fragmentsOf cs) ≠ some (ids k))
    (ht : ¬ FunctionTag.opening <:+: contentOf cs)
    (hw : ∀ f ∈ fragmentsOf cs, ¬ IsMalformed (fragmentsOf cs) f.index) (agg : IdSupply) :
    aggregate agg (.start :: all) = .ok ⟨String.ofList
      (if (indices (fragmentsOf cs)).isEmpty then contentOf cs else Text.trimEnd (contentOf cs)),
      stopOf cs, meantCalls ids (fragmentsOf cs) 0 (indices (fragmentsOf cs))⟩ :=
  aggregate_of_distinct h (nodup_meantCalls hids hgiven hnew (pairwise_indices _) 0) ht hw agg

/-- The calls of a turn are reassembled exactly, however they are fragmented: one for each index
that occurs, in order, unless one of them is malformed. -/
theorem aggregate_events (ids agg : IdSupply) (chunks : List Chunk)
    (ho : Orderly (firstChoices chunks)) (hids : Function.Injective ids)
    (hgiven : ∀ i j, i ≠ j → ∀ id, idAt i (fragmentsOf (firstChoices chunks)) = some id →
      idAt j (fragmentsOf (firstChoices chunks)) ≠ some id)
    (hnew : ∀ i k, idAt i (fragmentsOf (firstChoices chunks)) ≠ some (ids k))
    (ht : ¬ FunctionTag.opening <:+: contentOf (firstChoices chunks)) :
    ((∃ c, aggregate agg (events ids chunks) = .error (.malformedCall c)) ↔
      ∃ f ∈ fragmentsOf (firstChoices chunks),
        IsMalformed (fragmentsOf (firstChoices chunks)) f.index) ∧
    ((∀ f ∈ fragmentsOf (firstChoices chunks),
        ¬ IsMalformed (fragmentsOf (firstChoices chunks)) f.index) →
      ∃ is : List UInt32, is.Pairwise (· < ·) ∧
        (∀ i, i ∈ is ↔ ∃ f ∈ fragmentsOf (firstChoices chunks), f.index = i) ∧
        aggregate agg (events ids chunks) = .ok ⟨String.ofList
          (if is.isEmpty then contentOf (firstChoices chunks)
            else Text.trimEnd (contentOf (firstChoices chunks))),
          stopOf (firstChoices chunks),
          meantCalls ids (fragmentsOf (firstChoices chunks)) 0 is⟩) := by
  rw [events_eq]
  generalize firstChoices chunks = cs at *
  obtain ⟨es, gs, hb⟩ := Orderly.brings ids ho
  have hok := fun hw => aggregate_of_wellFormed hb hids hgiven hnew ht hw agg
  refine ⟨⟨?_, fun hm => aggregate_of_malformed hb hm agg⟩, fun hw => ?_⟩
  · rintro ⟨c, hc⟩
    apply Classical.byContradiction
    intro hm
    rw [hok fun f hf hn => hm ⟨f, hf, hn⟩] at hc
    cases hc
  · exact ⟨_, pairwise_indices _, fun i => mem_indices, hok hw⟩

def interleaved : List Chunk :=
  [⟨[⟨0, { calls := some [⟨1, none, none, some ⟨some "g", some "\x7b"⟩⟩,
      ⟨0, some "a", none, some ⟨some "f", none⟩⟩] }, none⟩]⟩,
    ⟨[⟨0, { content := some "Hi", calls := some [⟨1, none, none, some ⟨none, some "\x7d"⟩⟩] },
      some "tool_calls"⟩]⟩]

theorem idAt_interleaved (i : UInt32) :
    idAt i (fragmentsOf (firstChoices interleaved)) = if i = 0 then some "a" else none := by
  have hf : fragmentsOf (firstChoices interleaved) =
      [⟨1, none, none, some ⟨some "g", some "\x7b"⟩⟩, ⟨0, some "a", none, some ⟨some "f", none⟩⟩,
        ⟨1, none, none, some ⟨none, some "\x7d"⟩⟩] := rfl
  rw [hf]
  by_cases h0 : i = 0
  · subst h0
    rfl
  · by_cases h1 : i = 1
    · subst h1
      rfl
    · simp [idAt, piecesAt, Ne.symm h0, Ne.symm h1, h0]

theorem orderly_interleaved : Orderly (firstChoices interleaved) := by
  intro before c after he hc d hd
  match before, after, he with
  | [], _, he =>
      obtain ⟨rfl, -⟩ := List.cons.inj he
      cases hc
  | [_], _, he =>
      obtain ⟨-, he⟩ := List.cons.inj he
      obtain ⟨-, rfl⟩ := List.cons.inj he
      cases hd
  | _ :: _ :: _, _, he =>
      obtain ⟨-, he⟩ := List.cons.inj he
      obtain ⟨-, he⟩ := List.cons.inj he
      cases (List.append_eq_nil_iff.1 he.symm).2

theorem wellFormed_interleaved : ∀ f ∈ fragmentsOf (firstChoices interleaved),
    ¬ IsMalformed (fragmentsOf (firstChoices interleaved)) f.index := by
  have h : ∀ f ∈ fragmentsOf (firstChoices interleaved),
      Text.trim (nameAt f.index (fragmentsOf (firstChoices interleaved))) ≠ [] ∧
      (Arguments.parse (argumentsAt f.index
        (fragmentsOf (firstChoices interleaved)))).toOption.isSome = true := by
    decide +kernel
  intro f hf hm
  obtain ⟨hn, ha⟩ := h f hf
  obtain ⟨e, he⟩ := Arguments.parse_of_malformed (hm.resolve_left hn)
  rw [he] at ha
  cases ha

theorem aggregate_events_interleaved :
    (¬ ∃ c, aggregate .strokes (events .strokes interleaved) = .error (.malformedCall c)) ∧
    ∃ is : List UInt32, is.Pairwise (· < ·) ∧
      (∀ i, i ∈ is ↔ ∃ f ∈ fragmentsOf (firstChoices interleaved), f.index = i) ∧
      aggregate .strokes (events .strokes interleaved) = .ok ⟨String.ofList
        (if is.isEmpty then contentOf (firstChoices interleaved)
          else Text.trimEnd (contentOf (firstChoices interleaved))),
        stopOf (firstChoices interleaved),
        meantCalls .strokes (fragmentsOf (firstChoices interleaved)) 0 is⟩ := by
  have hgiven : ∀ i j, i ≠ j → ∀ id, idAt i (fragmentsOf (firstChoices interleaved)) = some id →
      idAt j (fragmentsOf (firstChoices interleaved)) ≠ some id := by
    intro i j hne id hi hj
    rw [idAt_interleaved] at hi hj
    split at hi
    · next h0 =>
        split at hj
        · next h1 => exact hne (h0.trans h1.symm)
        · cases hj
    · cases hi
  have hnew : ∀ i k, idAt i (fragmentsOf (firstChoices interleaved)) ≠
      some (IdSupply.strokes k) := by
    intro i k hi
    rw [idAt_interleaved] at hi
    split at hi
    · have ha : ['a'] = List.replicate k '1' := String.ofList_inj.1 (Option.some.inj hi)
      have hm : 'a' ∈ List.replicate k '1' := ha ▸ List.mem_cons_self
      exact absurd (List.eq_of_mem_replicate hm) (by decide)
    · cases hi
  have ht : ¬ FunctionTag.opening <:+: contentOf (firstChoices interleaved) :=
    Text.cut?_eq_none_iff.1 (by decide)
  obtain ⟨hm, hok⟩ := aggregate_events .strokes .strokes interleaved orderly_interleaved
    IdSupply.strokes_injective hgiven hnew ht
  refine ⟨fun h => ?_, hok wellFormed_interleaved⟩
  obtain ⟨f, hf, hmf⟩ := hm.1 h
  exact wellFormed_interleaved f hf hmf

end Turn

end ChatTurn.Remote
