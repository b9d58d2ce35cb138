import ChatTurn.Proofs.Aggregator.Conservation
import ChatTurn.Proofs.Aggregator.Content
import Mathlib.Data.List.Forall2
import Mathlib.Data.List.Pairwise

namespace ChatTurn

variable {ids : IdSupply} {es : List Event} {log : List Entry} {m : Completion}

namespace FunctionTag

/-- Each tag of the texts, put together, is whole in one of them. -/
inductive Whole : List (List Char) → Prop
  | untagged {ts : List (List Char)} (h : ¬ opening <:+: ts.flatten) : Whole ts
  | tagged (ts us : List (List Char)) (u tag v : List Char)
      (h : next? (ts ++ (u ++ tag ++ v) :: us).flatten =
        some (.ok (ts.flatten ++ u, tag, v ++ us.flatten)))
      (rest : Whole (v :: us)) : Whole (ts ++ (u ++ tag ++ v) :: us)

theorem taggedCalls_of_scan {t prose : List Char} {calls : List Invocation}
    (h : scan t = .ok (prose, calls)) : taggedCalls t = calls := by
  rw [taggedCalls, extract, h]
  rfl

theorem not_isInfix_of_mem {ts : List (List Char)} {t : List Char}
    (h : ¬ opening <:+: ts.flatten) (ht : t ∈ ts) : ¬ opening <:+: t :=
  fun ho => h (ho.trans (List.infix_of_mem_flatten ht))

theorem taggedCalls_of_untagged {ts : List (List Char)} (h : ¬ opening <:+: ts.flatten) :
    ts.flatMap taggedCalls = [] :=
  List.flatMap_eq_nil_iff.2 fun _ ht =>
    taggedCalls_of_scan (scan_of_untagged (not_isInfix_of_mem h ht))

theorem Whole.scan {ts : List (List Char)} (h : Whole ts) {prose : List Char}
    {calls : List Invocation} (hs : scan ts.flatten = .ok (prose, calls)) :
    (∀ t ∈ ts, ∃ r, FunctionTag.scan t = .ok r) ∧ ts.flatMap taggedCalls = calls := by
  induction h generalizing prose calls with
  | untagged h =>
      rw [scan_of_untagged h] at hs
      cases hs
      exact ⟨fun t ht => ⟨_, scan_of_untagged (not_isInfix_of_mem h ht)⟩,
        taggedCalls_of_untagged h⟩
  | tagged ts us u tag v h rest ih =>
      obtain ⟨call, q, is, hp, hr, -, rfl⟩ := exists_of_scan h hs
      obtain ⟨hscans, hcalls⟩ := ih hr
      obtain ⟨⟨⟨q, js⟩, hv⟩, hus⟩ := List.forall_mem_cons.1 hscans
      have hbefore : ¬ opening <:+: ts.flatten :=
        fun ho => not_isInfix_of_next? h (List.infix_append_of_infix_left ho)
      -- the text with the tag is scanned as the whole is, from the same tag on
      have hpart : next? (u ++ tag ++ v) = some (.ok (u, tag, v)) := by
        apply next?_of_part ts.flatten us.flatten
        rwa [List.flatten_append, List.flatten_cons, ← List.append_assoc] at h
      have hd : FunctionTag.scan (u ++ tag ++ v) = .ok (u ++ q, call :: js) := by
        rw [scan_of_next? hpart, hp, hv]
        rfl
      constructor
      · refine List.forall_mem_append.2 ⟨fun t ht => ?_, List.forall_mem_cons.2 ⟨⟨_, hd⟩, hus⟩⟩
        exact ⟨_, scan_of_untagged (not_isInfix_of_mem hbefore ht)⟩
      · rw [List.flatMap_cons, taggedCalls_of_scan hv] at hcalls
        rw [List.flatMap_append, taggedCalls_of_untagged hbefore, List.flatMap_cons,
          taggedCalls_of_scan hd, List.nil_append, List.cons_append, hcalls]

end FunctionTag

/-- The prose that an event adds. -/
def Event.spoken (e : Event) : List Char := (e.delta.text?.getD "").toList

/-- The calls that an event carries by itself, whole or in tags. -/
def Event.emitted (e : Event) : List Entry :=
  e.delta.call?.toList.map .delivered ++ (taggedCalls e.spoken).map .parsed

def emissions (es : List Event) : List Entry := es.flatMap Event.emitted

/-- A call that came whole is itself in a message; one found in text is given an id there. -/
def Entry.Yields : Entry → ToolCall → Prop
  | delivered c, d => d = c
  | parsed i, d => d.toInvocation = i

/-- All calls come whole with ids of their own, or in tags within one delta, and no two of them
invoke the same tool with the same arguments. -/
structure IsPlain (es : List Event) : Prop where
  found : foundCalls (journal es) = []
  tags : FunctionTag.Whole (es.map Event.spoken)
  ids : ((Event.carried es).map (·.id)).Nodup
  distinct : (emissions es).Pairwise fun x y =>
    x.invocation.same y.invocation = false ∧ y.invocation.same x.invocation = false

def WholeFirst (log : List Entry) : Prop :=
  log.Pairwise fun x y => x.parsed? = none ∨ y.delivered? = none

theorem eq_of_wholeFirst (h : WholeFirst log) :
    log = (wholeCalls log).map .delivered ++ (foundCalls log).map .parsed := by
  induction log with
  | nil => rfl
  | cons x log ih =>
      obtain ⟨hx, hlog⟩ := List.pairwise_cons.1 h
      cases x with
      | delivered c => exact congrArg (Entry.delivered c :: ·) (ih hlog)
      | parsed i =>
          have hnone : wholeCalls log = [] :=
            List.filterMap_eq_nil_iff.2 fun y hy => (hx y hy).resolve_left nofun
          have hfound := ih hlog
          rw [hnone, List.map_nil, List.nil_append] at hfound
          change _ = (wholeCalls log).map _ ++ Entry.parsed i :: (foundCalls log).map .parsed
          rw [hnone, List.map_nil, List.nil_append, ← hfound]

theorem mem_foundCalls {i : Invocation} : i ∈ foundCalls log ↔ .parsed i ∈ log := by
  rw [foundCalls, List.mem_filterMap]
  constructor
  · rintro ⟨e, he, hi⟩
    cases e with
    | delivered c => cases hi
    | parsed j => exact Option.some.inj hi ▸ he
  · exact fun h => ⟨_, h, rfl⟩

theorem wholeCalls_append (log log' : List Entry) :
    wholeCalls (log ++ log') = wholeCalls log ++ wholeCalls log' := List.filterMap_append

theorem wholeCalls_entries (c : Option ToolCall) (is : List Invocation) :
    wholeCalls (c.toList.map .delivered ++ is.map .parsed) = c.toList := by
  rw [wholeCalls_append_parsed]
  cases c <;> rfl

theorem foundCalls_entries (c : Option ToolCall) (is : List Invocation) :
    foundCalls (c.toList.map .delivered ++ is.map .parsed) = is := by
  have hparsed : (is.map Entry.parsed).filterMap Entry.parsed? = is := by
    rw [List.filterMap_map]
    exact List.filterMap_some
  rw [foundCalls, List.filterMap_append, hparsed]
  cases c <;> rfl

theorem wholeCalls_emissions (es : List Event) :
    wholeCalls (emissions es) = Event.carried es := by
  rw [wholeCalls, emissions, List.filterMap_flatMap, Event.carried,
    List.filterMap_eq_flatMap_toList]
  exact congrArg (es.flatMap ·) (funext fun e => wholeCalls_entries _ _)

theorem foundCalls_emissions (es : List Event) :
    foundCalls (emissions es) = (es.map Event.spoken).flatMap taggedCalls := by
  rw [foundCalls, emissions, List.filterMap_flatMap, List.flatMap_map]
  exact congrArg (es.flatMap ·) (funext fun e => foundCalls_entries _ _)

theorem wholeCalls_journalFrom (before es : List Event) :
    wholeCalls (journalFrom before es) = Event.carried es := by
  induction es generalizing before with
  | nil => rfl
  | cons e es ih =>
      rw [journalFrom, wholeCalls_append, ih, Event.entries, wholeCalls_entries, Event.carried,
        Event.carried, List.filterMap_eq_flatMap_toList, List.filterMap_eq_flatMap_toList,
        List.flatMap_cons]

theorem wholeCalls_journal (es : List Event) : wholeCalls (journal es) = Event.carried es :=
  wholeCalls_journalFrom [] es

theorem wholeFirst_emitted (e : Event) : WholeFirst e.emitted := by
  refine List.pairwise_append.2 ⟨?_, ?_, ?_⟩
  · exact List.pairwise_map.2 (List.pairwise_of_forall fun _ _ => .inl rfl)
  · exact List.pairwise_map.2 (List.pairwise_of_forall fun _ _ => .inr rfl)
  · exact List.forall_mem_map.2 fun c _ _ _ => .inl rfl

theorem forall_wholeFirst_iff {log' : List Entry} :
    (∀ x ∈ log, ∀ y ∈ log', x.parsed? = none ∨ y.delivered? = none) ↔
      foundCalls log = [] ∨ wholeCalls log' = [] := by
  rw [foundCalls, wholeCalls, List.filterMap_eq_nil_iff, List.filterMap_eq_nil_iff]
  constructor
  · intro h
    by_contra hn
    push Not at hn
    obtain ⟨⟨x, hx, hxn⟩, y, hy, hyn⟩ := hn
    exact (h x hx y hy).elim hxn hyn
  · rintro (h | h) x hx y hy
    · exact .inl (h x hx)
    · exact .inr (h y hy)

theorem wholeFirst_emissions_iff : WholeFirst (emissions es) ↔
    es.Pairwise fun d e => taggedCalls d.spoken = [] ∨ e.delta.call? = none := by
  have heach : ∀ e ∈ es, WholeFirst e.emitted := fun e _ => wholeFirst_emitted e
  rw [WholeFirst, emissions, List.pairwise_flatMap]
  refine (and_iff_right heach).trans ?_
  simp only [forall_wholeFirst_iff, Event.emitted, wholeCalls_entries, foundCalls_entries,
    Option.toList_eq_nil_iff]

theorem IsPlain.same_eq_false (h : IsPlain es) {c : ToolCall} {i : Invocation}
    (hc : c ∈ wholeCalls (emissions es)) (hi : i ∈ foundCalls (emissions es)) :
    c.toInvocation.same i = false := by
  have hsymm : Std.Symm fun x y : Entry => x.invocation.same y.invocation = false ∧
      y.invocation.same x.invocation = false := ⟨fun _ _ h => h.symm⟩
  exact (h.distinct.forall (mem_wholeCalls.1 hc) (mem_foundCalls.1 hi) nofun).1

theorem foldl_enter_of_nodup {ds : List Entry}
    (h : ((wholeCalls (log ++ ds)).map (·.id)).Nodup) : ds.foldl enter log = log ++ ds := by
  induction ds generalizing log with
  | nil => exact (List.append_nil log).symm
  | cons d ds ih =>
      have henter : enter log d = log ++ [d] := by
        cases d with
        | parsed i => rfl
        | delivered c =>
            refine if_neg fun hm => ?_
            rw [wholeCalls_append, List.map_append, List.nodup_append] at h
            exact h.2.2 _ hm _ List.mem_cons_self rfl
      rw [List.append_cons] at h ⊢
      rw [List.foldl_cons, henter, ih h]

namespace Aggregator

variable {a : Aggregator}

theorem foldl_restate_of_distinct {is : List Invocation} (ids : IdSupply)
    (h : ∀ i ∈ is, ∀ c ∈ a.uncovered, c.toInvocation.same i = false) :
    (is.foldl (restate ids) a).calls = a.calls ++ numbered ids a.issued is := by
  induction is generalizing a with
  | nil => exact (List.append_nil _).symm
  | cons i is ih =>
      obtain ⟨hi, his⟩ := List.forall_mem_cons.1 h
      have hnone : ¬ (invocations a.uncovered).any (·.same i) = true := by
        simpa [invocations] using hi
      have hrest := ih
        (a := { a with calls := a.calls ++ [i.withId (ids a.issued)], issued := a.issued + 1 }) his
      rw [List.foldl_cons, restate_of_not_any hnone, hrest, numbered]
      exact (List.append_cons _ _ _).symm

theorem exists_scan_of_ok (h : aggregate ids es = .ok m) :
    ∃ r, FunctionTag.scan (Event.prose es) = .ok r := by
  obtain ⟨a, ha, hm⟩ := exists_finish_of_ok h
  rw [finish, ha.content, FunctionTag.extract] at hm
  cases hs : FunctionTag.scan (Event.prose es) with
  | ok r => exact ⟨r, rfl⟩
  | error e =>
      rw [hs] at hm
      split at hm
      · cases hm
      · cases hm

theorem taggedCalls_prose (h : IsPlain es) (hm : aggregate ids es = .ok m) :
    foundCalls (emissions es) = taggedCalls (Event.prose es) := by
  obtain ⟨⟨prose, calls⟩, hs⟩ := exists_scan_of_ok hm
  have hflatten : (es.map Event.spoken).flatten = Event.prose es := List.flatMap_def.symm
  rw [foundCalls_emissions, FunctionTag.taggedCalls_of_scan hs]
  exact (h.tags.scan (hflatten ▸ hs)).2

theorem calls_of_plain (h : IsPlain es) (hm : aggregate ids es = .ok m) :
    m.calls = wholeCalls (emissions es) ++ numbered ids 0 (foundCalls (emissions es)) := by
  have hstart : ({} : Aggregator).calls = wholeCalls [] := rfl
  obtain ⟨hc, hu, hi⟩ := foldl_record_whole ids h.found hstart rfl
  have hnodup : ((wholeCalls ([] ++ journal es)).map (·.id)).Nodup := by
    rw [List.nil_append, wholeCalls_journal]
    exact h.ids
  have hwhole : wholeCalls ((journal es).foldl enter []) = wholeCalls (emissions es) := by
    rw [foldl_enter_of_nodup hnodup, List.nil_append, wholeCalls_journal, wholeCalls_emissions]
  rw [hwhole] at hc hu
  rw [calls_eq_of_ok hm, history, List.foldl_append, foldl_record_parsed, ← taggedCalls_prose h hm,
    foldl_restate_of_distinct, hc, hi]
  intro i hi c hm
  exact h.same_eq_false (hu ▸ hm) hi

theorem proper_foundCalls (h : IsPlain es) (hm : aggregate ids es = .ok m) :
    ∀ i ∈ foundCalls (emissions es), i.Proper := by
  rw [taggedCalls_prose h hm]
  exact proper_taggedCalls _

theorem yields_entries (ids : IdSupply) (n : Nat) (cs : List ToolCall) (is : List Invocation) :
    List.Forall₂ Entry.Yields (cs.map .delivered ++ is.map .parsed)
      (cs ++ numbered ids n is) := by
  refine List.rel_append ?_ ?_
  · rw [List.forall₂_map_left_iff]
    exact List.forall₂_same.2 fun _ _ => rfl
  · induction is generalizing n with
    | nil => exact .nil
    | cons i is ih => exact .cons rfl (ih (n + 1))

theorem invocations_of_yields {log : List Entry} {cs : List ToolCall}
    (h : List.Forall₂ Entry.Yields log cs) : invocations cs = log.map Entry.invocation := by
  induction h with
  | nil => rfl
  | @cons x c log cs hx h ih =>
      have hc : c.toInvocation = x.invocation := by
        cases x with
        | delivered d => exact congrArg _ hx
        | parsed i => exact hx
      rw [invocations, List.map_cons, List.map_cons, hc]
      exact congrArg (x.invocation :: ·) ih

/-- The calls of a plain turn are in the order in which its events carry them just where no tag
comes before an event that carries a whole call. -/
theorem calls_in_order_iff (h : IsPlain es) (hm : aggregate ids es = .ok m) :
    List.Forall₂ Entry.Yields (emissions es) m.calls ↔
      es.Pairwise fun d e => taggedCalls d.spoken = [] ∨ e.delta.call? = none := by
  rw [← wholeFirst_emissions_iff, calls_of_plain h hm]
  constructor
  · intro hy
    have hwhole : ∀ i ∈ invocations (wholeCalls (emissions es)), i ∉ foundCalls (emissions es) :=
      List.forall_mem_map.2 fun c hc hi => by
        have hself := (proper_foundCalls h hm _ hi).same_self
        rw [h.same_eq_false hc hi] at hself
        cases hself
    -- where a call came from can be told from its invocation, so the order can be read off
    have horder : ((emissions es).map Entry.invocation).Pairwise fun i j =>
        i ∈ foundCalls (emissions es) → j ∈ foundCalls (emissions es) := by
      rw [← invocations_of_yields hy, invocations, List.map_append, map_toInvocation_numbered,
        List.pairwise_append]
      refine ⟨List.pairwise_of_forall_mem_list ?_, List.pairwise_of_forall_mem_list ?_, ?_⟩
      · exact fun i hi j _ hf => absurd hf (hwhole i hi)
      · exact fun i _ j hj _ => hj
      · exact fun i hi j _ hf => absurd hf (hwhole i hi)
    refine (List.pairwise_map.1 horder).imp_of_mem fun {x y} hx hy hxy => ?_
    cases y with
    | parsed j => exact .inr rfl
    | delivered c =>
        cases x with
        | delivered d => exact .inl rfl
        | parsed i =>
            have hc : c.toInvocation ∈ invocations (wholeCalls (emissions es)) :=
              List.mem_map.2 ⟨c, mem_wholeCalls.2 hy, rfl⟩
            exact absurd (hxy (mem_foundCalls.2 hx)) (hwhole _ hc)
  · intro hw
    have hyields := yields_entries ids 0 (wholeCalls (emissions es)) (foundCalls (emissions es))
    rwa [← eq_of_wholeFirst hw] at hyields

def tagText : String := "<function=a>\x7b\x7d</function>"

/-- A call that comes whole, and a tag after it. -/
def taggedLast : List Event :=
  [.start, .resolved codeCall none, .text tagText, .complete .endOfTurn]

theorem isPlain_taggedLast : IsPlain taggedLast where
  found := rfl
  tags := .tagged [[], []] [[]] [] tagText.toList [] rfl (.untagged (Text.cut?_eq_none_iff.1 rfl))
  ids := List.nodup_singleton _
  distinct := by decide +kernel

theorem calls_in_order_iff_taggedLast : ∃ m,
    IsPlain taggedLast ∧ aggregate .strokes taggedLast = .ok m ∧
    List.Forall₂ Entry.Yields (emissions taggedLast) m.calls := by
  obtain ⟨m, hm, -⟩ := exists_ok_of_map (x := aggregate .strokes taggedLast)
    (f := (·.stop)) (b := .endOfTurn) (by decide +kernel)
  exact ⟨m, isPlain_taggedLast, hm,
    (calls_in_order_iff isPlain_taggedLast hm).2 (by decide +kernel)⟩

def taggedFirst : List Event :=
  [.start, .text tagText, .resolved codeCall none, .complete .endOfTurn]

theorem not_in_order_taggedFirst : ∃ m,
    IsPlain taggedFirst ∧ aggregate .strokes taggedFirst = .ok m ∧
    ¬ List.Forall₂ Entry.Yields (emissions taggedFirst) m.calls := by
  have htags : FunctionTag.Whole (taggedFirst.map Event.spoken) :=
    .tagged [[]] [[], []] [] tagText.toList [] rfl (.untagged (Text.cut?_eq_none_iff.1 rfl))
  have hplain : IsPlain taggedFirst := ⟨rfl, htags, List.nodup_singleton _, by decide +kernel⟩
  obtain ⟨m, hm, hnames⟩ := exists_ok_of_map (x := aggregate .strokes taggedFirst)
    (f := fun m => (invocations m.calls).map (·.name.text)) (b := ["code_interpreter", "a"])
    (by decide +kernel)
  have hemitted : ((emissions taggedFirst).map Entry.invocation).map (·.name.text) =
      ["a", "code_interpreter"] := by decide +kernel
  refine ⟨m, hplain, hm, fun hy => ?_⟩
  rw [← invocations_of_yields hy] at hemitted
  exact absurd (hnames.symm.trans hemitted) (by decide)

end Aggregator

end ChatTurn
