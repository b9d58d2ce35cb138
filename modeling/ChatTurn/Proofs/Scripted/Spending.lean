import ChatTurn.Proofs.Scripted.Reading
import ChatTurn.Proofs.Scripted.Turn

namespace ChatTurn

namespace Budget

variable {b : Budget} {t : String}

def left (b : Budget) : Nat := b.limit.toNat - b.spent.toNat

theorem pay?_of_stop (h : Token.isStop t = true) (b : Budget) : b.pay? t = some b := if_pos h

theorem pay?_of_left_eq_zero (h : Token.isStop t = false) (hb : b.left = 0) : b.pay? t = none := by
  have hle : b.limit ≤ b.spent := UInt32.le_iff_toNat_le.2 (Nat.le_of_sub_eq_zero hb)
  rw [pay?, h, if_neg Bool.false_ne_true, if_pos hle]

/-- The count cannot overflow, as it is below the limit. -/
theorem pay?_of_left_pos (h : Token.isStop t = false) (hb : 0 < b.left) :
    ∃ b', b.pay? t = some b' ∧ b'.limit = b.limit ∧ b'.spent.toNat = b.spent.toNat + 1 := by
  have hlt : b.spent.toNat < b.limit.toNat := Nat.lt_of_sub_pos hb
  have hle : ¬ b.limit ≤ b.spent := mt UInt32.le_iff_toNat_le.1 (Nat.not_le.2 hlt)
  refine ⟨{ b with spent := b.spent + 1 }, ?_, rfl, ?_⟩
  · rw [pay?, h, if_neg Bool.false_ne_true, if_neg hle]
  · have hsize := b.limit.toNat_lt
    rw [UInt32.toNat_add, UInt32.toNat_one]
    omega

end Budget

theorem Decoder.perform_new_of_stop {format : Option PromptFormat} {ops : List Decoder.Op}
    {stop : StopReason} (h : ((new format).course ops).stop? = some stop) (ids : IdSupply) :
    ∃ es, ((new format).perform ids ops).2 = es ++ [.complete stop] ∧
      ∀ e ∈ es, e.kind = .progress := by
  obtain ⟨closing, hf, he⟩ := (reached_course format ops).entire ids stop
  refine ⟨((new format).course ops).events ++ closing, ?_,
    List.forall_mem_append.2 ⟨fun e hm => (he.ongoing e hm).kind, he.progress⟩⟩
  rw [perform_eq_course (reached_new format).isDone, h]
  simp only [hf, List.append_assoc]

namespace Scripted

open Decoder (Op)

variable {ids : IdSupply} {t : String} {ts tokens : List String}

def leading (tokens : List String) : Nat := (tokens.takeWhile (!Token.isStop ·)).length

/-- How a message ends for which `n` tokens can be paid. The stop token itself is free. -/
def ending (n : Nat) (tokens : List String) : Op :=
  match tokens.find? Token.isStop with
  | some stop => if leading tokens ≤ n then .push stop else .finish .outOfTokens
  | none => .finish .outOfTokens

/-- What a decoder is given for `n` tokens. -/
def allotted (n : Nat) (tokens : List String) : List Op :=
  (tokens.take (min n (leading tokens))).map .push ++ [ending n tokens]

theorem allotted_nil (n : Nat) : allotted n [] = [.finish .outOfTokens] := by
  simp [allotted, ending]

theorem leading_of_stop (h : Token.isStop t = true) (ts : List String) : leading (t :: ts) = 0 := by
  simp [leading, h]

theorem leading_of_not_stop (h : Token.isStop t = false) (ts : List String) :
    leading (t :: ts) = leading ts + 1 := by
  simp [leading, h]

theorem ending_of_stop (h : Token.isStop t = true) (n : Nat) (ts : List String) :
    ending n (t :: ts) = .push t := by
  simp [ending, leading_of_stop h, h]

theorem ending_zero (h : Token.isStop t = false) (ts : List String) :
    ending 0 (t :: ts) = .finish .outOfTokens := by
  rw [ending, List.find?_cons_of_neg (by simp [h]), leading_of_not_stop h]
  cases ts.find? Token.isStop with
  | none => rfl
  | some stop => exact if_neg (Nat.not_succ_le_zero _)

theorem ending_succ (h : Token.isStop t = false) (n : Nat) (ts : List String) :
    ending (n + 1) (t :: ts) = ending n ts := by
  simp [ending, leading_of_not_stop h, h]

theorem allotted_of_stop (h : Token.isStop t = true) (n : Nat) (ts : List String) :
    allotted n (t :: ts) = [.push t] := by
  simp [allotted, ending_of_stop h, leading_of_stop h]

theorem allotted_zero (h : Token.isStop t = false) (ts : List String) :
    allotted 0 (t :: ts) = [.finish .outOfTokens] := by
  simp [allotted, ending_zero h]

theorem allotted_succ (h : Token.isStop t = false) (n : Nat) (ts : List String) :
    allotted (n + 1) (t :: ts) = .push t :: allotted n ts := by
  simp [allotted, ending_succ h, leading_of_not_stop h]

theorem exists_stop?_ending (n : Nat) (tokens : List String) :
    ∃ reason, (ending n tokens).stop? = some reason ∧
      (reason = .outOfTokens ↔ (∀ t ∈ tokens, Token.isStop t = false) ∨ n < leading tokens) := by
  rw [ending]
  cases hf : tokens.find? Token.isStop with
  | none =>
      have hnone : ∀ t ∈ tokens, Token.isStop t = false := by
        simpa using List.find?_eq_none.1 hf
      exact ⟨_, rfl, fun _ => .inl hnone, fun _ => rfl⟩
  | some stop =>
      have hstop : Token.isStop stop = true := List.find?_some hf
      by_cases hn : leading tokens ≤ n
      · obtain ⟨reason, hr, hne⟩ := Token.exists_stop?_of_isStop hstop
        refine ⟨reason, by simp only [if_pos hn, hr], fun he => absurd he hne, ?_⟩
        rintro (hall | hlt)
        · have hmem := List.mem_of_find?_eq_some hf
          rw [hall stop hmem] at hstop
          cases hstop
        · exact absurd hn (Nat.not_le.2 hlt)
      · exact ⟨.outOfTokens, by simp only [if_neg hn]; rfl, fun _ => .inr (Nat.not_le.1 hn),
          fun _ => rfl⟩

theorem stop?_course_allotted (d : Decoder) (n : Nat) (tokens : List String) :
    (d.course (allotted n tokens)).stop? = (ending n tokens).stop? := by
  have hlast : ∀ (d : Decoder) (op : Op), (d.course [op]).stop? = op.stop? := by
    intro d op
    rw [Decoder.course]
    cases op.stop? <;> rfl
  induction tokens generalizing n d with
  | nil =>
      rw [allotted_nil, hlast]
      rfl
  | cons t ts ih =>
      cases hs : Token.isStop t with
      | true => rw [allotted_of_stop hs, ending_of_stop hs, hlast]
      | false =>
          cases n with
          | zero => rw [allotted_zero hs, ending_zero hs, hlast]
          | succ n =>
              rw [allotted_succ hs, ending_succ hs, Decoder.course,
                (Token.isStop_eq_false_iff t).1 hs]
              exact ih _ n

structure Progress where
  budget : Budget
  decoder : Decoder
  tokens : List String

namespace Progress

def next? (ids : IdSupply) (s : Progress) : Option (Progress × List Event) :=
  match s.tokens with
  | [] => none
  | t :: ts =>
    if s.decoder.isDone then none
    else (s.budget.pay? t).map fun b => (⟨b, (s.decoder.push ids t).1, ts⟩, (s.decoder.push ids t).2)

inductive Reaches (ids : IdSupply) (s : Progress) : Progress → Prop
  | refl : Reaches ids s s
  | step {s' s'' : Progress} {es : List Event} (h : Reaches ids s s')
      (hn : s'.next? ids = some (s'', es)) : Reaches ids s s''

/-- Each token but a stop token costs one. -/
structure Paid (n : UInt32) (tokens : List String) (s : Progress) : Prop where
  limit : s.budget.limit = n
  within : s.budget.spent ≤ n
  exact : ∃ taken, tokens = taken ++ s.tokens ∧
    s.budget.spent.toNat = taken.countP (!Token.isStop ·)

variable {n : UInt32} {s s' : Progress} {es : List Event}

theorem Paid.next (h : Paid n tokens s) (hn : s.next? ids = some (s', es)) :
    Paid n tokens s' := by
  obtain ⟨b, d, rest⟩ := s
  cases rest with
  | nil => cases hn
  | cons t ts =>
      rw [next?] at hn
      obtain ⟨-, hn⟩ := Option.ite_none_left_eq_some.1 hn
      obtain ⟨b', hp, he⟩ := Option.map_eq_some_iff.1 hn
      cases he
      obtain ⟨rfl, hle, taken, rfl, hcount⟩ := h
      dsimp only at hle hcount hp ⊢
      cases hs : Token.isStop t with
      | true =>
          rw [Budget.pay?_of_stop hs] at hp
          cases hp
          exact ⟨rfl, hle, taken ++ [t], by simp, by simp [hcount, hs]⟩
      | false =>
          by_cases hb : b.left = 0
          · rw [Budget.pay?_of_left_eq_zero hs hb] at hp
            cases hp
          · have hpos := Nat.pos_of_ne_zero hb
            obtain ⟨b'', hp', hl, hspent⟩ := Budget.pay?_of_left_pos hs hpos
            rw [hp] at hp'
            cases hp'
            refine ⟨hl, ?_, taken ++ [t], by simp, by simp [hspent, hcount, hs]⟩
            rw [UInt32.le_iff_toNat_le, hspent]
            exact Nat.lt_of_sub_pos hpos

theorem Reaches.paid {d : Decoder} (h : Reaches ids ⟨{ limit := n }, d, tokens⟩ s) :
    Paid n tokens s := by
  induction h with
  | refl => exact ⟨rfl, UInt32.zero_le, [], rfl, rfl⟩
  | step _ hn ih => exact ih.next hn

end Progress

theorem generate_eq_next? (ids : IdSupply) (s : Progress) :
    generate ids s.budget s.decoder s.tokens = match s.next? ids with
      | none => (s.decoder.finish ids .outOfTokens).2
      | some (s', es) => es ++ generate ids s'.budget s'.decoder s'.tokens := by
  obtain ⟨b, d, tokens⟩ := s
  cases tokens with
  | nil => rfl
  | cons t ts =>
      simp only [generate, Progress.next?]
      cases d.isDone with
      | true => rfl
      | false => cases b.pay? t <;> rfl

theorem generate_of_done {d : Decoder} (h : d.isDone = true) (ids : IdSupply) (b : Budget)
    (tokens : List String) : generate ids b d tokens = [] := by
  have hf : d.finish ids .outOfTokens = (d, []) := Decoder.apply_of_done h ids (.finish .outOfTokens)
  cases tokens with
  | nil => rw [generate, hf]
  | cons t ts => rw [generate, if_pos h, hf]

theorem isDone_push {d : Decoder} (h : d.isDone = false) (ids : IdSupply) (t : String) :
    (d.push ids t).1.isDone = Token.isStop t := by
  have ha : d.push ids t = d.apply ids (.push t) := rfl
  rw [ha]
  cases hs : Token.isStop t with
  | true =>
      obtain ⟨reason, hr, -⟩ := Token.exists_stop?_of_isStop hs
      rw [Decoder.apply_of_stop hr, Decoder.finish_fst ids reason h]
      rfl
  | false =>
      rw [Decoder.apply_of_open ((Token.isStop_eq_false_iff t).1 hs)]
      exact Decoder.isDone_advance h _

/-- A generation gives its decoder what it has the tokens for. -/
theorem generate_eq_perform (ids : IdSupply) (b : Budget) {d : Decoder} (hd : d.isDone = false)
    (tokens : List String) :
    generate ids b d tokens = (d.perform ids (allotted b.left tokens)).2 := by
  induction tokens generalizing b d with
  | nil =>
      rw [allotted_nil]
      exact (List.append_nil _).symm
  | cons t ts ih =>
      have hnext := generate_eq_next? ids ⟨b, d, t :: ts⟩
      rw [Progress.next?] at hnext
      simp only [hd, Bool.false_eq_true, if_false] at hnext
      have hdone := isDone_push hd ids t
      rw [hnext]
      cases hs : Token.isStop t with
      | true =>
          rw [hs] at hdone
          rw [Budget.pay?_of_stop hs, allotted_of_stop hs]
          simp only [Option.map_some, generate_of_done hdone]
          rfl
      | false =>
          rw [hs] at hdone
          by_cases hb : b.left = 0
          · rw [Budget.pay?_of_left_eq_zero hs hb, hb, allotted_zero hs]
            exact (List.append_nil _).symm
          · obtain ⟨b', hp, hl, hspent⟩ := Budget.pay?_of_left_pos hs (Nat.pos_of_ne_zero hb)
            have hleft : b.left = b'.left + 1 := by
              rw [Budget.left] at hb ⊢
              rw [Budget.left, hl, hspent]
              omega
            rw [hp, hleft, allotted_succ hs]
            exact congrArg _ (ih b' hdone)

theorem allotted_append_stop {stop : String} (hs : Token.isStop stop = true) (n : Nat)
    (before after more : List String) :
    allotted n (before ++ stop :: after) = allotted n (before ++ stop :: more) := by
  induction before generalizing n with
  | nil => rw [List.nil_append, List.nil_append, allotted_of_stop hs, allotted_of_stop hs]
  | cons t ts ih =>
      rw [List.cons_append, List.cons_append]
      cases ht : Token.isStop t with
      | true => rw [allotted_of_stop ht, allotted_of_stop ht]
      | false =>
          cases n with
          | zero => rw [allotted_zero ht, allotted_zero ht]
          | succ n => rw [allotted_succ ht, allotted_succ ht, ih]

/-- A generation that may cost `n` tokens costs what its tokens before the first stop token do, as
far as that goes. -/
structure Metered (ids : IdSupply) (n : UInt32) (format : Option PromptFormat)
    (tokens : List String) : Prop where
  events : generate ids { limit := n } (.new format) tokens =
    ((Decoder.new format).perform ids (allotted n.toNat tokens)).2
  stops : ∃ es reason,
    generate ids { limit := n } (.new format) tokens = es ++ [.complete reason] ∧
    (∀ e ∈ es, e.kind = .progress) ∧
    (reason = .outOfTokens ↔
      (∀ t ∈ tokens, Token.isStop t = false) ∨ n.toNat < leading tokens)
  unread : ∀ before stop after more, Token.isStop stop = true →
    tokens = before ++ stop :: after →
    generate ids { limit := n } (.new format) tokens =
      generate ids { limit := n } (.new format) (before ++ stop :: more)
  paid : ∀ s, Progress.Reaches ids ⟨{ limit := n }, .new format, tokens⟩ s →
    Progress.Paid n tokens s

theorem generate_new (ids : IdSupply) (n : UInt32) (format : Option PromptFormat)
    (tokens : List String) : generate ids { limit := n } (.new format) tokens =
      ((Decoder.new format).perform ids (allotted n.toNat tokens)).2 :=
  generate_eq_perform ids { limit := n } (Decoder.reached_new format).isDone tokens

theorem exists_generate_eq {n : UInt32} {reason : StopReason}
    (h : (ending n.toNat tokens).stop? = some reason) (ids : IdSupply)
    (format : Option PromptFormat) :
    ∃ es, generate ids { limit := n } (.new format) tokens = es ++ [.complete reason] ∧
      ∀ e ∈ es, e.kind = .progress := by
  rw [generate_new]
  exact Decoder.perform_new_of_stop ((stop?_course_allotted _ _ _).trans h) ids

theorem metered (ids : IdSupply) (n : UInt32) (format : Option PromptFormat)
    (tokens : List String) : Metered ids n format tokens := by
  refine ⟨generate_new ids n format tokens, ?_, ?_, fun s hs => hs.paid⟩
  · obtain ⟨reason, hr, hiff⟩ := exists_stop?_ending n.toNat tokens
    obtain ⟨es, he, hk⟩ := exists_generate_eq hr ids format
    exact ⟨es, reason, he, hk, hiff⟩
  · rintro before stop after more hs rfl
    rw [generate_new, generate_new, allotted_append_stop hs]

/-- The start, and what a new decoder makes of the tokens that are paid for. -/
def allottedItems (ids : IdSupply) (n : UInt32) (format : Option PromptFormat)
    (tokens : List String) : List StreamItem :=
  (.start :: ((Decoder.new format).perform ids (allotted n.toNat tokens)).2).map .ok

theorem map_generation (ids : IdSupply) (n : UInt32) (format : Option PromptFormat)
    (tokens : List String) : (generation ids { limit := n } (.new format) tokens).map .ok =
      allottedItems ids n format tokens := by
  rw [generation, generate_new, allottedItems]

/-- Whatever else its provider does at the time, a generation that is read to the end has brought
its start and the events of just the tokens that it could pay for. A turn is such a generation, over
the tokens of its output. -/
theorem metered_of_run (p : Scripted) (ids : IdSupply) (r : Request) :
    (∀ format tokens, Metered ids (r.sampling.maxTokens.getD p.maxTokens) format tokens ∧
      ∀ {t : Pool.Trace StreamItem} {q : Pool StreamItem} {i : Nat}, Pool.Run p.pool t q →
        t.entered[i]? = some ((generation ids (p.budget r) (.new format) tokens).map .ok) →
        .acquire ∈ t.moves i → Pool.Yields t q i
          (allottedItems ids (r.sampling.maxTokens.getD p.maxTokens) format tokens)) ∧
    ∀ output, p.output r = .ok output → p.turn ids r =
      .ok (allottedItems ids (r.sampling.maxTokens.getD p.maxTokens) (Decoder.formatOf r)
        (Token.ofText output)) := by
  refine ⟨fun format tokens => ⟨metered ids _ format tokens, fun h hi ha => ?_⟩, fun output ho => ?_⟩
  · rw [← map_generation]
    exact Pool.yields_of_run h hi ha
  · rw [turn_of_output ho, ← map_generation]
    rfl

/-- Two tokens and the stop token after them, with a budget of two. -/
theorem metered_of_run_two : ∃ (p : Scripted) (r : Request) (items : List StreamItem)
    (t : Pool.Trace StreamItem) (q : Pool StreamItem),
    p.output r = .ok "one two<|eot_id|> three" ∧ p.turn (fun _ => "") r = .ok items ∧
    Pool.Run p.pool t q ∧ t.entered[0]? = some items ∧ .acquire ∈ t.moves 0 ∧
    Metered (fun _ => "") 2 none (Token.ofText "one two<|eot_id|> three") ∧
    Pool.Yields t q 0 (allottedItems (fun _ => "") 2 none
      (Token.ofText "one two<|eot_id|> three")) := by
  have houtput : output ⟨"local", [], some "one two<|eot_id|> three", 2, 1⟩ (.new "m" []) =
      .ok "one two<|eot_id|> three" := by
    with_unfolding_all rfl
  obtain ⟨hall, hturn⟩ := metered_of_run ⟨"local", [], some "one two<|eot_id|> three", 2, 1⟩
    (fun _ => "") (.new "m" [])
  obtain ⟨hmetered, hyields⟩ := hall none (Token.ofText "one two<|eot_id|> three")
  obtain ⟨t, q, hrun, hi, ha⟩ := Pool.exists_run_acquired (by decide : 0 < 1)
    (.error (.generation (.shutDown "local")))
    (allottedItems (fun _ => "") 2 none (Token.ofText "one two<|eot_id|> three"))
  exact ⟨_, _, _, t, q, houtput, hturn _ houtput, hrun, hi, ha, hmetered,
    hyields hrun (map_generation (fun _ => "") 2 none _ ▸ hi) ha⟩

end Scripted

end ChatTurn
