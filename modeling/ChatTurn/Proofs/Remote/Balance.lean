import ChatTurn.Proofs.Event.CallText
import ChatTurn.Proofs.Remote.Reassembly

namespace ChatTurn

namespace Event

variable {e : Event} {es fs : List Event}

def begun (es : List Event) : Nat := es.countP (·.status? = some .started)

def settled (es : List Event) : Nat :=
  es.countP fun e => e.status? = some .success ∨ e.status? = some .failure

/-- As many calls are settled as begun, all before completion, and at no event is there text that
could be taken for a call. -/
structure Balanced (es : List Event) : Prop where
  settled_eq : begun es = settled es
  completion : ∃ before stop, es = before ++ [.complete stop] ∧ ∀ e ∈ before, e.kind ≠ .complete
  no_text : ∀ before e after, es = before ++ e :: after → endedText before e = []

@[simp] theorem begun_append : begun (es ++ fs) = begun es + begun fs := List.countP_append

@[simp] theorem settled_append : settled (es ++ fs) = settled es + settled fs := List.countP_append

theorem begun_cons (e : Event) (es : List Event) : begun (e :: es) = begun [e] + begun es := by
  rw [← begun_append]
  rfl

theorem settled_cons (e : Event) (es : List Event) :
    settled (e :: es) = settled [e] + settled es := by
  rw [← settled_append]
  rfl

theorem begun_of_text (h : ∀ e ∈ es, e.isText = true) : begun es = 0 := by
  refine List.countP_eq_zero.2 fun e he => ?_
  obtain ⟨s, rfl⟩ := isText_iff.1 (h e he)
  exact (nomatch ·)

theorem settled_of_open (h : ∀ e ∈ es, e.isOpen = true) : settled es = 0 := by
  refine List.countP_eq_zero.2 fun e he => ?_
  rcases isOpen_iff.1 (h e he) with ⟨s, rfl⟩ | ⟨s, rfl⟩ | ⟨s, rfl⟩ <;> exact (nomatch ·)

end Event

namespace Remote

variable {i j : UInt32} {is : List UInt32} {fs gs : List CallFragment}

theorem insertIndex_of_mem (h : is.Pairwise (· < ·)) (hj : j ∈ is) : insertIndex j is = is := by
  induction is with
  | nil => cases hj
  | cons i is ih =>
      obtain ⟨hi, his⟩ := List.pairwise_cons.1 h
      rw [insertIndex]
      by_cases he : j = i
      · rw [if_neg (he ▸ UInt32.lt_irrefl j), if_pos he]
      · have hm : j ∈ is := (List.mem_cons.1 hj).resolve_left he
        have hlt : ¬ j < i := fun hlt => UInt32.lt_irrefl j (UInt32.lt_trans hlt (hi j hm))
        rw [if_neg hlt, if_neg he, ih his hm]

theorem length_insertIndex_of_not_mem (hj : j ∉ is) :
    (insertIndex j is).length = is.length + 1 := by
  induction is with
  | nil => rfl
  | cons i is ih =>
      obtain ⟨he, hm⟩ := not_or.1 fun h => hj (List.mem_cons.2 h)
      rw [insertIndex]
      split
      · rfl
      · rw [List.length_cons, ih hm, List.length_cons]

theorem any_table : (table fs).any (·.1 = i) = true ↔ i ∈ indices fs := by
  simp [table]

theorem length_table : (table fs).length = (indices fs).length := List.length_map _

theorem table_eq_nil_iff : table fs = [] ↔ fs = [] := by
  rw [table, List.map_eq_nil_iff, indices_eq_nil_iff]

namespace Turn

open Event (begun settled Balanced endedText openText)

variable {ids : IdSupply} {t : Turn} {cs : List Choice}

theorem begun_onFragments (h : t.pending = table fs) (gs : List CallFragment) :
    begun (t.onFragments gs).2 + t.pending.length = (table (fs ++ gs)).length := by
  induction gs generalizing t fs with
  | nil =>
      rw [List.append_nil, h]
      exact Nat.zero_add _
  | cons g gs ih =>
      have hg : (t.onFragment g).1.pending = table (fs ++ [g]) := by
        rw [← addFragment_table, ← h]
        rfl
      have htail := ih hg
      have hone : begun [(t.onFragment g).2] + t.pending.length = (table (fs ++ [g])).length := by
        rw [onFragment, h, length_table, length_table, indices_concat]
        by_cases hm : g.index ∈ indices fs
        · rw [if_pos (any_table.2 hm), insertIndex_of_mem (pairwise_indices fs) hm]
          exact Nat.zero_add _
        · rw [if_neg (fun ha => hm (any_table.1 ha)), length_insertIndex_of_not_mem hm]
          exact Nat.add_comm 1 _
      rw [hg] at htail
      rw [onFragments_cons, Event.begun_cons, List.append_cons, ← htail]
      omega

theorem begun_resolutions (ids : IdSupply) (stop : StopReason) (n : Nat) (cs : List OpenCall) :
    begun (resolutions ids stop n cs) = 0 ∧ settled (resolutions ids stop n cs) = cs.length := by
  induction cs generalizing n with
  | nil => exact ⟨rfl, rfl⟩
  | cons c cs ih =>
      obtain ⟨hb, hs⟩ := ih (n + 1)
      rw [resolutions, Event.begun_cons, Event.settled_cons, hb, hs, List.length_cons]
      cases c.resolve (ids n) with
      | ok call => exact ⟨rfl, Nat.add_comm 1 _⟩
      | error e => exact ⟨rfl, Nat.add_comm 1 _⟩

/-- Calls begun and not yet settled are those that are pending. -/
def Accounted (t t' : Turn) (es : List Event) : Prop :=
  begun es + t.pending.length = settled es + t'.pending.length

theorem Accounted.append {t' t'' : Turn} {es gs : List Event} (h : Accounted t t' es)
    (h' : Accounted t' t'' gs) : Accounted t t'' (es ++ gs) := by
  rw [Accounted] at h h' ⊢
  rw [Event.begun_append, Event.settled_append]
  omega

theorem accounted_onStop (stop : StopReason) :
    Accounted t (t.onStop ids stop).1 (t.onStop ids stop).2 := by
  rw [onStop]
  split
  · rfl
  · obtain ⟨hb, hs⟩ := begun_resolutions ids stop 0 (t.pending.map Prod.snd)
    rw [Accounted, hb, hs, List.length_map]
    exact Nat.add_comm 0 _

theorem accounted_onContent (content : Option String) : Accounted t t (onContent content) := by
  have ht := onContent_isText content
  rw [Accounted, Event.begun_of_text ht,
    Event.settled_of_open fun e he => Event.isOpen_of_isText (ht e he)]

theorem accounted_onFragments (h : t.pending = table fs) (gs : List CallFragment) :
    Accounted t (t.onFragments gs).1 (t.onFragments gs).2 := by
  obtain ⟨es, he, ho, -⟩ := onFragments_eq h gs
  have hb := begun_onFragments h gs
  rw [he] at hb ⊢
  rw [Accounted, Event.settled_of_open ho, hb]
  exact (Nat.zero_add _).symm

theorem accounted_onChoice (ids : IdSupply) (h : t.pending = table fs) (c : Choice) :
    Accounted t (t.onChoice ids c).1 (t.onChoice ids c).2 ∧
      ∃ gs, (t.onChoice ids c).1.pending = table gs := by
  have hc := (accounted_onContent (t := t) c.delta.content).append
    (accounted_onFragments h c.fragments)
  obtain ⟨es, he, -⟩ := onFragments_eq h c.fragments
  rw [Choice.fragments] at he hc
  rw [he] at hc
  rw [onChoice, he]
  cases c.finishReason with
  | none =>
      refine ⟨?_, _, rfl⟩
      simp only [List.append_nil]
      exact hc
  | some reason =>
      refine ⟨hc.append (accounted_onStop _), ?_⟩
      simp only [onStop]
      split
      · exact ⟨_, rfl⟩
      · exact ⟨[], rfl⟩

theorem accounted_onChoices (ids : IdSupply) (h : t.pending = table fs) (cs : List Choice) :
    Accounted t (t.onChoices ids cs).1 (t.onChoices ids cs).2 := by
  induction cs generalizing t fs with
  | nil => rfl
  | cons c cs ih =>
      obtain ⟨hc, gs, hg⟩ := accounted_onChoice ids h c
      rw [onChoices_cons]
      exact hc.append (ih hg)

theorem onChoice_late (ids : IdSupply) {stop : StopReason} (h : t.pending = table fs)
    (ht : t.stop = some stop) (c : Choice) : (t.onChoice ids c).1 = { t with pending := table (fs ++ c.fragments) } := by
  obtain ⟨es, he, -⟩ := onFragments_eq h c.fragments
  rw [Choice.fragments] at he ⊢
  rw [onChoice, he]
  cases c.finishReason with
  | none => rfl
  | some reason => simp [onStop, ht]

theorem onChoices_late (ids : IdSupply) {stop : StopReason} (h : t.pending = table fs)
    (ht : t.stop = some stop) (cs : List Choice) :
    (t.onChoices ids cs).1 = { t with pending := table (fs ++ fragmentsOf cs) } := by
  induction cs generalizing t fs with
  | nil =>
      rw [fragmentsOf, List.flatMap_nil, List.append_nil, ← h]
      rfl
  | cons c cs ih =>
      have hc := onChoice_late ids h ht c
      rw [onChoices_cons, ih (congrArg Turn.pending hc) ((congrArg Turn.stop hc).trans ht), hc]
      simp [fragmentsOf]

theorem orderly_of_unfinished (h : ∀ c ∈ cs, c.finishReason = none) : Orderly cs := by
  rintro before c after rfl hc
  rw [h c (List.mem_append_right before List.mem_cons_self)] at hc
  cases hc

theorem orderly_iff {before after : List Choice} {c : Choice} {reason : String}
    (hb : ∀ d ∈ before, d.finishReason = none) (hc : c.finishReason = some reason) :
    Orderly (before ++ c :: after) ↔ fragmentsOf after = [] := by
  rw [fragmentsOf, List.flatMap_eq_nil_iff]
  constructor
  · intro h
    exact h before c after rfl (by rw [hc]; rfl)
  · intro h before' c' after' he hc' d hd
    rcases mem_or_suffix_of_cut he with hm | hafter
    · rw [hb c' hm] at hc'
      cases hc'
    · exact h d (hafter.subset hd)

theorem settled_at_end_iff (ids : IdSupply) (cs : List Choice) :
    (opened.onChoices ids cs).1.stop = none ∨ (opened.onChoices ids cs).1.pending = [] ↔
      Orderly cs := by
  rcases finish_split cs with hn | ⟨before, c, after, reason, rfl, hb, hc⟩
  · obtain ⟨es, -, he⟩ := onChoices_unfinished ids opened_pending hn
    rw [he]
    exact iff_of_true (.inl rfl) (orderly_of_unfinished hn)
  · obtain ⟨es, -, he⟩ := onChoices_unfinished ids opened_pending hb
    obtain ⟨ds, -, hd⟩ := onChoice_finishing ids
      (t := { opened with pending := table ([] ++ fragmentsOf before) }) rfl rfl hc
    have hnil : ([] : List (UInt32 × OpenCall)) = table [] := rfl
    have ha := onChoices_late ids
      (t := { opened with pending := [], stop := some (stopReason reason) }) hnil rfl after
    rw [orderly_iff hb hc, onChoices_append, he, onChoices_cons, hd, ha, List.nil_append,
      ← table_eq_nil_iff]
    exact or_iff_right (nomatch ·)

theorem settled_eq_iff (ids : IdSupply) (chunks : List Chunk) :
    begun (events ids chunks) = settled (events ids chunks) ↔ Orderly (firstChoices chunks) := by
  rw [← settled_at_end_iff ids]
  have ha := accounted_onChoices ids opened_pending (firstChoices chunks)
  rw [events_eq, Event.begun_cons, Event.settled_cons, Event.begun_append, Event.settled_append]
  generalize opened.onChoices ids (firstChoices chunks) = r at ha ⊢
  have hbalance : begun r.2 = settled r.2 + r.1.pending.length := ha
  have hstart : begun [.start] = 0 ∧ settled [.start] = 0 := ⟨rfl, rfl⟩
  have hcomplete : ∀ stop, begun [.complete stop] = 0 ∧ settled [.complete stop] = 0 :=
    fun _ => ⟨rfl, rfl⟩
  rw [closing, Event.begun_append, Event.settled_append, (hcomplete _).1, (hcomplete _).2,
    hstart.1, hstart.2, ← List.length_eq_zero_iff, onStop]
  cases hs : r.1.stop with
  | none =>
      obtain ⟨hb, hr⟩ := begun_resolutions ids .endOfTurn 0 (r.1.pending.map Prod.snd)
      simp only [Option.isSome_none, Bool.false_eq_true, if_false, hb, hr, List.length_map]
      exact iff_of_true (by omega) (.inl trivial)
  | some stop =>
      simp only [Option.isSome_some, if_true, reduceCtorEq, false_or]
      have hnil : begun [] = 0 ∧ settled [] = 0 := ⟨rfl, rfl⟩
      rw [hnil.1, hnil.2]
      omega

theorem endedText_of_mem_resolutions {stop : StopReason} {n : Nat} {cs : List OpenCall} {e : Event}
    (h : e ∈ resolutions ids stop n cs) :
    e.endsCall = true ∧ ∀ before, endedText before e = [] := by
  induction cs generalizing n with
  | nil => cases h
  | cons c cs ih =>
      rw [resolutions] at h
      rcases List.mem_cons.1 h with rfl | h
      · cases c.resolve (ids n) <;> exact ⟨rfl, fun before => rfl⟩
      · exact ih h

theorem openText_resolutions (front : List Event) (stop : StopReason) (n : Nat)
    {cs : List OpenCall} (h : cs ≠ []) : openText (front ++ resolutions ids stop n cs) = [] := by
  rcases List.eq_nil_or_concat (resolutions ids stop n cs) with hn | ⟨rs, r, hr⟩
  · cases cs with
    | nil => exact absurd rfl h
    | cons c cs => cases hn
  · rw [List.concat_eq_append] at hr
    have hm : r ∈ resolutions ids stop n cs := hr ▸ List.mem_append_right rs List.mem_cons_self
    rw [hr, ← List.append_assoc,
      Event.openText_concat_of_ends (endedText_of_mem_resolutions hm).1]

theorem Brings.no_text {all es gs : List Event} (h : Brings ids cs all es gs) :
    ∃ front, .start :: all = front ++ [.complete (stopOf cs)] ∧
      (∀ e ∈ front, e.kind ≠ .complete ∧ ∀ before, endedText before e = []) ∧
      openText front = [] := by
  have heq := h.eq
  have hes : ∀ e ∈ .start :: es, e.kind ≠ .complete ∧ ∀ before, endedText before e = [] := by
    refine List.forall_mem_cons.2 ⟨⟨(nomatch ·), fun before => rfl⟩, fun e he => ⟨?_, ?_⟩⟩
    · rw [Event.kind_of_isOpen (h.isOpen e he)]
      exact (nomatch ·)
    · exact fun before => Event.endedText_of_isOpen (h.isOpen e he)
  have hgs : ∀ e ∈ gs, e.isOpen = true := fun e he => Event.isOpen_of_isText (h.isText e he)
  have hopen : openText ([.start] ++ es) = openText [.start] ++ Event.fragments es :=
    Event.openText_append_of_open h.isOpen
  refine ⟨(.start :: es) ++
    resolutions ids (stopOf cs) 0 ((table (fragmentsOf cs)).map Prod.snd) ++ gs,
    by rw [heq]; simp, ?_, ?_⟩
  · refine List.forall_mem_append.2 ⟨List.forall_mem_append.2 ⟨hes, fun e he => ⟨?_, ?_⟩⟩,
      fun e he => ⟨?_, ?_⟩⟩
    · rw [resolutions_kind _ _ _ e he]
      exact (nomatch ·)
    · exact (endedText_of_mem_resolutions he).2
    · rw [Event.kind_of_isOpen (hgs e he)]
      exact (nomatch ·)
    · exact fun before => Event.endedText_of_isOpen (hgs e he)
  · rw [Event.openText_append_of_open hgs, Event.fragments_of_text h.isText, List.append_nil]
    by_cases hf : fragmentsOf cs = []
    · rw [hf]
      have hn : resolutions ids (stopOf cs) 0 ((table []).map Prod.snd) = [] := rfl
      rw [hn, List.append_nil, ← List.singleton_append, hopen, h.silent hf]
      rfl
    · apply openText_resolutions
      rw [ne_eq, List.map_eq_nil_iff, table_eq_nil_iff]
      exact hf

/-- Every call that a turn begins is settled, and no text is left to be taken for another call,
exactly where no fragments come after the reason to stop. -/
theorem balanced_iff (ids : IdSupply) (chunks : List Chunk) :
    Balanced (events ids chunks) ↔ Orderly (firstChoices chunks) := by
  refine ⟨fun h => (settled_eq_iff ids chunks).1 h.settled_eq, fun h => ?_⟩
  have heq := (settled_eq_iff ids chunks).2 h
  obtain ⟨es, gs, hb⟩ := Orderly.brings ids h
  obtain ⟨front, hfront, hsilent, hopen⟩ := hb.no_text
  rw [← events_eq] at hfront
  refine ⟨heq, ⟨front, _, hfront, fun e he => (hsilent e he).1⟩, fun before e after he => ?_⟩
  rw [hfront] at he
  rcases List.eq_nil_or_concat after with rfl | ⟨after, d, rfl⟩
  · obtain ⟨rfl, hc⟩ := List.append_inj' he rfl
    obtain ⟨rfl, -⟩ := List.cons.inj hc
    have hended : endedText front (.complete (stopOf (firstChoices chunks))) =
        openText front ++ [] := rfl
    rw [hended, hopen]
    rfl
  · rw [List.concat_eq_append, ← List.cons_append, ← List.append_assoc] at he
    have hm : e ∈ front := by
      rw [(List.append_inj' he rfl).1]
      exact List.mem_append_right before List.mem_cons_self
    exact (hsilent e hm).2 before

/-- A call begun after the reason to stop. -/
def lateCall : List Chunk :=
  [⟨[⟨0, {}, some "tool_calls"⟩]⟩,
    ⟨[⟨0, { calls := some [⟨0, some "a", none, some ⟨some "f", some "\x7b\"name\":\"g\"\x7d"⟩⟩] }, none⟩]⟩]

theorem not_balanced_lateCall : ¬ Balanced (events .strokes lateCall) := by
  intro h
  have hcount : begun (events .strokes lateCall) = 1 ∧ settled (events .strokes lateCall) = 0 :=
    ⟨by decide, by decide⟩
  have heq := h.settled_eq
  rw [hcount.1, hcount.2] at heq
  cases heq

end Turn

end Remote

end ChatTurn
