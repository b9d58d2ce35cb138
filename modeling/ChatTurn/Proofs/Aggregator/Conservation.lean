import ChatTurn.Proofs.Aggregator.Acceptance
import ChatTurn.Proofs.Aggregator.Ledger

namespace ChatTurn

/-- What is left of some calls after others, of each class without as many leading ones as there
are in `cs`. -/
def beyond (cs before : List Invocation) : List Invocation → List Invocation
  | [] => []
  | i :: is =>
    if i.copies cs ≤ i.copies before then i :: beyond cs (before ++ [i]) is
    else beyond cs (before ++ [i]) is

variable {ids : IdSupply} {es : List Event} {m : Completion}

theorem copies_beyond {x : Invocation} {cs before is : List Invocation}
    (hx : x.Proper) (hcs : ∀ i ∈ cs, i.Proper) (hb : ∀ i ∈ before, i.Proper)
    (his : ∀ i ∈ is, i.Proper) :
    x.copies (beyond cs before is) + max (x.copies before) (x.copies cs) =
      max (x.copies before + x.copies is) (x.copies cs) := by
  induction is generalizing before with
  | nil => rw [beyond, Invocation.copies_nil, Nat.zero_add, Nat.add_zero]
  | cons i is ih =>
      obtain ⟨hi, his⟩ := List.forall_mem_cons.1 his
      have hrest := ih (List.forall_mem_append.2 ⟨hb, List.forall_mem_singleton.2 hi⟩) his
      rw [Invocation.copies_append] at hrest
      rw [beyond, Invocation.copies_cons x i is]
      cases hix : i.same x with
      | true =>
          rw [Invocation.copies_eq_of_same hx hi hix hcs, Invocation.copies_eq_of_same hx hi hix hb]
          rw [Invocation.copies_of_same hix] at hrest ⊢
          split
          · rw [Invocation.copies_cons, Invocation.copies_of_same hix]
            omega
          · omega
      | false =>
          rw [Invocation.copies_of_not_same hix] at hrest ⊢
          split
          · rw [Invocation.copies_cons, Invocation.copies_of_not_same hix]
            omega
          · omega

namespace Aggregator

variable {a : Aggregator}

theorem foldl_restate_beyond {cs before is : List Invocation} (ids : IdSupply)
    (hu : ∀ i ∈ invocations a.uncovered, i.Proper) (his : ∀ i ∈ is, i.Proper)
    (h : ∀ x : Invocation, x.Proper →
      x.copies (invocations a.uncovered) = x.copies cs - x.copies before) :
    (is.foldl (restate ids) a).calls =
      a.calls ++ numbered ids a.issued (beyond cs before is) := by
  induction is generalizing a before with
  | nil => exact (List.append_nil _).symm
  | cons i is ih =>
      obtain ⟨hi, his⟩ := List.forall_mem_cons.1 his
      have hcount := h i hi
      rw [List.foldl_cons, beyond]
      by_cases hany : (invocations a.uncovered).any (·.same i) = true
      · have hpos := Invocation.any_iff_copies_pos.1 hany
        rw [restate_of_any hany, if_neg (by omega)]
        refine ih ?_ his fun x hx => ?_
        · rw [invocations_eraseP]
          exact fun u hm => hu u (List.mem_of_mem_eraseP hm)
        · have herase := Invocation.copies_eraseP (x := x) hu hi hany
          have hux := h x hx
          rw [invocations_eraseP, Invocation.copies_append]
          omega
      · have hzero : i.copies (invocations a.uncovered) = 0 :=
          Nat.eq_zero_of_not_pos fun hp => hany (Invocation.any_iff_copies_pos.2 hp)
        rw [restate_of_not_any hany, if_pos (by omega), numbered,
          List.append_cons a.calls _ (numbered ids (a.issued + 1) _)]
        refine ih hu his fun x hx => ?_
        have hux := h x hx
        dsimp only
        rw [Invocation.copies_append]
        cases hix : i.same x with
        | true =>
            have hzero := Invocation.copies_of_not_any hx hi hix hu hany
            omega
        | false =>
            rw [Invocation.copies_of_not_same hix]
            exact hux

theorem foldl_record_whole (ids : IdSupply) {log ds : List Entry} (hd : foundCalls ds = [])
    (hc : a.calls = wholeCalls log) (hu : a.uncovered = wholeCalls log) :
    (ds.foldl (record ids) a).calls = wholeCalls (ds.foldl enter log) ∧
      (ds.foldl (record ids) a).uncovered = wholeCalls (ds.foldl enter log) ∧
      (ds.foldl (record ids) a).issued = a.issued := by
  induction ds generalizing log a with
  | nil => exact ⟨hc, hu, rfl⟩
  | cons d ds ih =>
      cases d with
      | parsed i => cases hd
      | delivered c =>
          rw [List.foldl_cons, List.foldl_cons]
          by_cases hm : c.id ∈ (wholeCalls log).map (·.id)
          · have hrec : record ids a (.delivered c) = a := deliver_of_old (hc ▸ hm)
            have hent : enter log (.delivered c) = log := if_pos hm
            rw [hrec, hent]
            exact ih hd hc hu
          · have hrec : record ids a (.delivered c) = _ := deliver_of_new (hc ▸ hm)
            have hent : enter log (.delivered c) = log ++ [.delivered c] := if_neg hm
            have hwhole := wholeCalls_concat_delivered log c
            rw [hrec, hent]
            exact ih hd (by rw [hwhole, hc]) (by rw [hwhole, hu])

theorem calls_eq_of_ok (h : aggregate ids es = .ok m) :
    m.calls = ((history es).foldl (record ids) {}).calls := by
  obtain ⟨a, ha, hm⟩ := exists_finish_of_ok h
  rw [finish] at hm
  split at hm
  · rw [ha.content] at hm
    split at hm
    · cases hm
    · next prose calls he =>
        cases hm
        have htags : taggedCalls (Event.prose es) = calls := by rw [taggedCalls, he]
        rw [history, List.foldl_append, htags, ← foldl_record_parsed]
        exact (ha.books.foldl_record ids _).calls
  · cases hm

/-- Where only tags are found in text, the calls that came whole stand first, and of each class the
tags beyond their number follow. -/
theorem calls_of_tags (h : aggregate ids es = .ok m) (hnone : foundCalls (journal es) = [])
    (hw : ∀ i ∈ invocations (wholeCalls (ledger es)), i.Proper) :
    m.calls = wholeCalls (ledger es) ++ numbered ids 0
      (beyond (invocations (wholeCalls (ledger es))) [] (taggedCalls (Event.prose es))) := by
  have hstart : ({} : Aggregator).calls = wholeCalls [] := rfl
  obtain ⟨hc, hu, hi⟩ := foldl_record_whole ids hnone hstart rfl
  rw [← wholeCalls_ledger] at hc hu
  have hcounts : ∀ x : Invocation, x.Proper →
      x.copies (invocations ((journal es).foldl (record ids) {}).uncovered) =
        x.copies (invocations (wholeCalls (ledger es))) - x.copies [] := by
    intro x _
    rw [hu, Invocation.copies_nil, Nat.sub_zero]
  rw [calls_eq_of_ok h, history, List.foldl_append, foldl_record_parsed,
    foldl_restate_beyond ids (hu ▸ hw) (proper_taggedCalls _) hcounts, hc, hi]

/-- The calls of a message are those of its ledger, each that came whole under its own id and in
order, less the most that can be paired of those found in text. -/
theorem aggregate_ledger (hm : aggregate ids es = .ok m) (hids : Function.Injective ids)
    (hfresh : ∀ c ∈ Event.carried es, ∀ k, c.id ≠ ids k)
    (hproper : ∀ c ∈ Event.carried es, c.toInvocation.Proper) :
    (wholeCalls (ledger es)).Sublist m.calls ∧
    (∀ x : Invocation, x.Proper → ∃ k, IsGreatest (pairable x (ledger es)) k ∧
      x.copies (invocations m.calls) + k =
        x.copies (invocations (wholeCalls (ledger es))) + x.copies (foundCalls (ledger es))) ∧
    (m.calls.map (·.id)).Nodup ∧
    (foundCalls (journal es) = [] →
      m.calls = wholeCalls (ledger es) ++ numbered ids 0
        (beyond (invocations (wholeCalls (ledger es))) [] (taggedCalls (Event.prose es))) ∧
      ∀ x : Invocation, x.Proper → x.copies (invocations m.calls) =
        max (x.copies (invocations (wholeCalls (ledger es))))
          (x.copies (taggedCalls (Event.prose es)))) := by
  have hsound := sound_history hfresh hproper
  have hledger : ∀ d ∈ ledger es, d.Sound ids := sound_foldl_enter (List.forall_mem_nil _) hsound
  have hkeeps := (keeps_nil ids).foldl_record hids (List.forall_mem_nil _) hsound
  have hw := proper_invocations hledger (.refl _)
  have hcalls := calls_eq_of_ok hm
  rw [← ledger] at hkeeps
  refine ⟨hcalls ▸ hkeeps.whole, fun x hx => ?_, hcalls ▸ hkeeps.distinct, fun hnone => ?_⟩
  · obtain ⟨k, hk, -, hc⟩ := hkeeps.counts x hx
    rw [hcalls]
    exact ⟨k, hk, hc⟩
  · have hform := calls_of_tags hm hnone hw
    refine ⟨hform, fun x hx => ?_⟩
    have hbeyond := copies_beyond hx hw (List.forall_mem_nil _)
      (proper_taggedCalls (Event.prose es))
    rw [Invocation.copies_nil] at hbeyond
    rw [hform, invocations, List.map_append, map_toInvocation_numbered, Invocation.copies_append]
    rw [invocations] at hbeyond ⊢
    omega

def codeCall : ToolCall := (CallExpression.code ['1']).withId "a"

theorem codeCall_id_ne_strokes (k : Nat) : codeCall.id ≠ IdSupply.strokes k := by
  intro h
  have ha : ['a'] = List.replicate k '1' := String.ofList_inj.1 h
  have hm : 'a' ∈ List.replicate k '1' := ha ▸ List.mem_cons_self
  exact absurd (List.eq_of_mem_replicate hm) (by decide)

/-- A call that came whole and is restated twice; the second time is a call of its own. -/
def restatedTwice : List Event :=
  [.start, .resolved codeCall none, .fragment "1" .success, .fragment "1" .success,
    .complete .endOfTurn]

def restatedCalls : List ToolCall := [codeCall, (CallExpression.code ['1']).withId ""]

theorem aggregate_restatedTwice :
    aggregate .strokes restatedTwice = .ok ⟨"", .endOfTurn, restatedCalls⟩ := by
  have hd : aggregate .strokes restatedTwice =
      finish .strokes ⟨.complete .endOfTurn, "", restatedCalls, [], "", 1⟩ := rfl
  have ht : ¬ FunctionTag.opening <:+: ("" : String).toList := Text.cut?_eq_none_iff.1 rfl
  rw [hd, finish_of_untagged rfl ht]
  rfl

theorem ledger_restatedTwice : ledger restatedTwice =
    [.delivered codeCall, .parsed (CallExpression.code ['1']),
      .parsed (CallExpression.code ['1'])] := by
  have ht : ¬ FunctionTag.opening <:+: Event.prose restatedTwice := Text.cut?_eq_none_iff.1 rfl
  rw [ledger, history, taggedCalls, FunctionTag.extract_of_untagged ht]
  rfl

theorem aggregate_ledger_restatedTwice :
    (wholeCalls (ledger restatedTwice)).Sublist restatedCalls ∧
    IsGreatest (pairable (CallExpression.code ['1']) (ledger restatedTwice)) 1 ∧
    (restatedCalls.map (·.id)).Nodup := by
  have hcarried : Event.carried restatedTwice = [codeCall] := rfl
  have hfresh : ∀ c ∈ Event.carried restatedTwice, ∀ k, c.id ≠ IdSupply.strokes k := by
    rw [hcarried]
    exact List.forall_mem_singleton.2 codeCall_id_ne_strokes
  have hproper : ∀ c ∈ Event.carried restatedTwice, c.toInvocation.Proper := by
    rw [hcarried]
    exact List.forall_mem_singleton.2 (CallExpression.proper_code _)
  obtain ⟨hw, hclasses, hn, -⟩ :=
    aggregate_ledger aggregate_restatedTwice IdSupply.strokes_injective hfresh hproper
  obtain ⟨k, hk, hc⟩ := hclasses _ (CallExpression.proper_code ['1'])
  have hcalls : (CallExpression.code ['1']).copies (invocations restatedCalls) = 2 := by
    decide +kernel
  have hwhole : (CallExpression.code ['1']).copies
      (invocations (wholeCalls (ledger restatedTwice))) = 1 := by
    rw [ledger_restatedTwice]
    decide +kernel
  have hfound : (CallExpression.code ['1']).copies (foundCalls (ledger restatedTwice)) = 2 := by
    rw [ledger_restatedTwice]
    decide +kernel
  have hone : k = 1 := by
    rw [hwhole, hfound] at hc
    change (CallExpression.code ['1']).copies (invocations restatedCalls) + k = 1 + 2 at hc
    omega
  exact ⟨hw, hone ▸ hk, hn⟩

end Aggregator

end ChatTurn
