import ChatTurn.Proofs.Output.ControlTokens
import ChatTurn.Proofs.Scripted.Spending

namespace ChatTurn

namespace Token

variable {cs before after : List Char} {mark : String}

/-- A stop token stands at the place, and none before. -/
structure FirstStop (cs before : List Char) (mark : String) (after : List Char) : Prop where
  isStop : isStop mark = true
  eq : cs = before ++ (mark.toList ++ after)
  first : ∀ u stop v, Token.isStop stop = true → cs = u ++ (stop.toList ++ v) →
    before.length ≤ u.length

theorem isStop_iff {t : String} : isStop t = true ↔ t = endOfTurn ∨ t = endOfMessage := by
  simp [isStop]

theorem exists_firstStop {u v : List Char} {stop : String} (hs : isStop stop = true)
    (h : cs = u ++ (stop.toList ++ v)) : ∃ before mark after, FirstStop cs before mark after := by
  induction hn : u.length using Nat.strong_induction_on generalizing u stop v with
  | _ n ih =>
      by_cases hlt : ∃ u' stop' v', isStop stop' = true ∧ cs = u' ++ (stop'.toList ++ v') ∧
          u'.length < n
      · obtain ⟨u', stop', v', hs', h', hl⟩ := hlt
        exact ih _ hl hs' h' rfl
      · refine ⟨u, stop, v, hs, h, fun u' stop' v' hs' h' => ?_⟩
        rw [hn]
        exact Nat.le_of_not_lt fun hl => hlt ⟨u', stop', v', hs', h', hl⟩

theorem exists_firstStop_terminated (output : String) :
    ∃ before mark after, FirstStop (Scripted.terminated output).toList before mark after := by
  have hturn : isStop endOfTurn = true := rfl
  have hmessage : isStop endOfMessage = true := rfl
  rw [Scripted.terminated]
  split
  · next h =>
      rw [Bool.or_eq_true] at h
      rcases h with h | h
      · obtain ⟨p, hp⟩ := Option.isSome_iff_exists.1 h
        exact exists_firstStop hturn ((Text.eq_of_cut? hp).trans (List.append_assoc _ _ _))
      · obtain ⟨p, hp⟩ := Option.isSome_iff_exists.1 h
        exact exists_firstStop hmessage ((Text.eq_of_cut? hp).trans (List.append_assoc _ _ _))
  · exact exists_firstStop (u := output.toList) (v := []) hturn (by simp)

theorem exists_cut?_of_isStop (h : isStop mark = true) :
    ∃ name inner, mark.toList = controlStart ++ name ∧ mark.toList.length = 10 ∧
      Text.cut? controlEnd ('|' :: name) = some (inner, []) := by
  rcases isStop_iff.1 h with rfl | rfl
  · exact ⟨"eot_id|>".toList, "|eot_id".toList, by decide, by decide, by decide⟩
  · exact ⟨"eom_id|>".toList, "|eom_id".toList, by decide, by decide, by decide⟩

theorem isControl_of_isStop {cs : List Char} (h : isStop (String.ofList cs) = true) :
    isControl cs = true := by
  have hc : isControl (String.ofList cs).toList = true := by
    rcases isStop_iff.1 h with he | he <;> rw [he] <;> decide
  rwa [String.toList_ofList] at hc

def stopRead? (cs : List Char) : Option String :=
  ((pairing cs).tokens.map String.ofList).find? isStop

theorem find?_isStop_ofText (s : String) : (ofText s).find? isStop = stopRead? s.toList := by
  rw [stopRead?, ← filter_isControl_split, ofText]
  induction split s.toList with
  | nil => rfl
  | cons t ts ih =>
      cases hc : isControl t with
      | true => simp only [List.filter_cons_of_pos hc, List.map_cons, List.find?_cons, ih]
      | false =>
          have hs : ¬ isStop (String.ofList t) = true := fun hs => by
            rw [isControl_of_isStop hs] at hc
            cases hc
          rw [List.filter_cons_of_neg (by simp [hc]), List.map_cons, List.find?_cons_of_neg hs, ih]

theorem stopRead?_of_not_isInfix {cs : List Char}
    (h : ∀ stop, isStop stop = true → ¬ stop.toList <:+: cs) : stopRead? cs = none := by
  rw [stopRead?, List.find?_eq_none]
  intro t ht hs
  obtain ⟨token, hm, rfl⟩ := List.mem_map.1 ht
  rw [← filter_isControl_split] at hm
  have hi := List.infix_of_mem_flatten (List.mem_filter.1 hm).1
  rw [flatten_split] at hi
  exact h _ hs (by rwa [String.toList_ofList])

theorem FirstStop.not_isInfix (h : FirstStop cs before mark after) {stop : String}
    (hs : Token.isStop stop = true) : ¬ stop.toList <:+: before := by
  rintro ⟨u, v, he⟩
  have hcs : cs = u ++ (stop.toList ++ (v ++ (mark.toList ++ after))) := by
    rw [h.eq, ← he]
    simp only [List.append_assoc]
  obtain ⟨name, inner, -, hl, -⟩ := exists_cut?_of_isStop hs
  have hle := h.first u stop _ hs hcs
  have hlength := congrArg List.length he
  simp only [List.length_append] at hlength
  omega

theorem pairing_stop_append (h : isStop mark = true) (rest : List Char) :
    pairing (mark.toList ++ rest) =
      ⟨mark.toList :: (pairing rest).tokens, (pairing rest).isOpen⟩ := by
  obtain ⟨name, inner, hm, -, hc⟩ := exists_cut?_of_isStop h
  have hend : Text.cut? controlEnd ('|' :: (name ++ rest)) = some (inner, rest) :=
    Text.cut?_append_of_eq_some hc rest
  have heq : '<' :: inner ++ controlEnd = mark.toList := by
    have hname := Text.eq_of_cut? hc
    rw [List.append_nil] at hname
    rw [hm, List.cons_append, ← hname]
    rfl
  rw [hm, List.append_assoc, pairing_of_closed (Text.cut?_of_prefix _) hend, heq, hm]

/-- The first stop token of a text is read unless a start of a control token is open before it; then
it is the next one that is read after it. -/
theorem stopRead?_of_firstStop (h : FirstStop cs before mark after) :
    stopRead? cs = if (pairing before).isOpen then stopRead? after else some mark := by
  have hnone : stopRead? before = none :=
    stopRead?_of_not_isInfix fun stop hs => h.not_isInfix hs
  obtain ⟨name, inner, hm, hl, hc⟩ := exists_cut?_of_isStop h.isStop
  rw [h.eq]
  cases ho : (pairing before).isOpen with
  | false =>
      have hp := pairing_append_of_closed (v := mark.toList ++ after) ho (by rw [hm]; exact nofun)
      rw [pairing_stop_append h.isStop] at hp
      rw [stopRead?, hp, List.map_append, List.find?_append, ← stopRead?, hnone]
      simp [h.isStop]
  | true =>
      have hend : Text.cut? controlEnd mark.toList = some ('<' :: inner, []) := by
        rw [hm, cut?_controlStart_append, hc]
        rfl
      obtain ⟨token, hlt, hp⟩ := pairing_append_of_open ho (by rw [hm]; rfl) hend after
      -- What the open start takes up is longer than any stop token.
      have hs : ¬ isStop (String.ofList token) = true := fun hs => by
        obtain ⟨-, -, -, hlength, -⟩ := exists_cut?_of_isStop hs
        rw [String.toList_ofList] at hlength
        omega
      rw [stopRead?, hp, List.map_append, List.find?_append, ← stopRead?, hnone, List.map_cons,
        List.find?_cons_of_neg hs]
      rfl

end Token

namespace Scripted

open Decoder (Op)

variable {p : Scripted} {ids : IdSupply} {r : Request} {output : String} {items : List StreamItem}

theorem exists_firstStop_of_output (h : p.output r = .ok output) :
    ∃ before mark after, Token.FirstStop output.toList before mark after := by
  rw [Scripted.output] at h
  split at h
  · cases h
    exact Token.exists_firstStop_terminated _
  · cases h

/-- What ends a message for which there are tokens enough, by the first stop token that is read. -/
def ended : Option String → Op
  | some stop => .push stop
  | none => .finish .outOfTokens

theorem ending_of_enough {n : Nat} {tokens : List String} (h : tokens.length ≤ n) :
    ending n tokens = ended (tokens.find? Token.isStop) := by
  have hle : leading tokens ≤ n := Nat.le_trans (List.takeWhile_prefix _).length_le h
  rw [ending]
  cases tokens.find? Token.isStop with
  | none => rfl
  | some stop => exact if_pos hle

theorem stop?_ended_iff {mark : String} {read : Option String} {reason given : StopReason}
    (hmark : Token.isStop mark = true) (hr : (Op.push mark).stop? = some reason)
    (hread : ∀ stop, read = some stop → Token.isStop stop = true)
    (hg : (ended read).stop? = some given) :
    (given = reason ↔ read = some mark) ∧ (given = .outOfTokens ↔ read = none) := by
  cases read with
  | none =>
      obtain ⟨reason', hr', hne⟩ := Token.exists_stop?_of_isStop hmark
      rw [hr] at hr'
      cases hr'
      cases hg
      simp [hne.symm]
  | some stop =>
      rcases Token.isStop_iff.1 hmark with rfl | rfl <;>
        rcases Token.isStop_iff.1 (hread stop rfl) with rfl | rfl <;>
        cases hr <;> cases hg <;> decide

/-- With tokens enough for its whole output, a turn ends for the reason of the first stop token in
the output if no start of a control token is left open before it, or if the next stop token that is
read is the same; and for no other. -/
theorem stop_eq_iff_of_output (h : p.output r = .ok output)
    (hb : (Token.ofText output).length ≤ (p.budget r).limit.toNat)
    (hturn : p.turn ids r = .ok items) {t : Pool.Trace StreamItem} {q : Pool StreamItem} {i : Nat}
    (hrun : Pool.Run p.pool t q) (hi : t.entered[i]? = some items) (ha : .acquire ∈ t.moves i) :
    ∃ before mark after reason es given, Token.FirstStop output.toList before mark after ∧
      (Op.push mark).stop? = some reason ∧
      items = (Event.start :: es ++ [Event.complete given]).map .ok ∧
      (∀ e ∈ es, e.kind = .progress) ∧
      Pool.Yields t q i items ∧
      (given = reason ↔
        (Token.pairing before).isOpen = false ∨ Token.stopRead? after = some mark) ∧
      (given = .outOfTokens ↔
        (Token.pairing before).isOpen = true ∧ Token.stopRead? after = none) := by
  obtain ⟨before, mark, after, hf⟩ := exists_firstStop_of_output h
  obtain ⟨reason, hr, hne⟩ := Token.exists_stop?_of_isStop hf.isStop
  obtain ⟨given, hg, -⟩ := exists_stop?_ending (p.budget r).limit.toNat (Token.ofText output)
  obtain ⟨es, he, hk⟩ := exists_generate_eq hg ids _
  refine ⟨before, mark, after, reason, es, given, hf, hr, ?_, hk, Pool.yields_of_run hrun hi ha, ?_⟩
  · have hitems := hturn.symm.trans (turn_of_output h ids)
    rw [List.cons_append, ← he]
    exact Except.ok.inj hitems
  · rw [ending_of_enough hb] at hg
    have hended := stop?_ended_iff hf.isStop hr (fun _ hs => List.find?_some hs) hg
    rw [Token.find?_isStop_ofText, Token.stopRead?_of_firstStop hf] at hended
    cases ho : (Token.pairing before).isOpen with
    | false => simpa [ho] using hended
    | true => simpa [ho] using hended

/-- A control token in the prose, and a stop token that the script does not give itself. -/
theorem stop_eq_iff_of_output_control : ∃ (p : Scripted) (ids : IdSupply) (r : Request)
    (output : String) (items : List StreamItem) (t : Pool.Trace StreamItem) (q : Pool StreamItem),
    p.output r = .ok output ∧ (Token.ofText output).length ≤ (p.budget r).limit.toNat ∧
      p.turn ids r = .ok items ∧ Pool.Run p.pool t q ∧ t.entered[0]? = some items ∧
      .acquire ∈ t.moves 0 ∧
      ∃ before mark after reason es given, Token.FirstStop output.toList before mark after ∧
        (Op.push mark).stop? = some reason ∧
        items = (Event.start :: es ++ [Event.complete given]).map .ok ∧
        (∀ e ∈ es, e.kind = .progress) ∧
        Pool.Yields t q 0 items ∧
        (given = reason ↔
          (Token.pairing before).isOpen = false ∨ Token.stopRead? after = some mark) ∧
        (given = .outOfTokens ↔
          (Token.pairing before).isOpen = true ∧ Token.stopRead? after = none) := by
  have houtput : output ⟨"local", [], some "Hi <|x|> there", 8, 1⟩ (.new "m" []) =
      .ok "Hi <|x|> there<|eot_id|>" := by
    with_unfolding_all rfl
  have htokens : Token.ofText "Hi <|x|> there<|eot_id|>" =
      ["Hi", " ", "<|x|>", " there", "<|eot_id|>"] := by
    with_unfolding_all rfl
  have hb : (Token.ofText "Hi <|x|> there<|eot_id|>").length ≤ 8 := by
    rw [htokens]
    decide
  obtain ⟨items, hturn⟩ : ∃ items, turn ⟨"local", [], some "Hi <|x|> there", 8, 1⟩ (fun _ => "")
      (.new "m" []) = .ok items := ⟨_, turn_of_output houtput _⟩
  obtain ⟨t, q, hrun, hi, ha⟩ := Pool.exists_run_acquired (by decide : 0 < 1)
    (.error (.generation (.shutDown "local"))) items
  exact ⟨_, _, _, _, _, t, q, houtput, hb, hturn, hrun, hi, ha,
    stop_eq_iff_of_output houtput hb hturn hrun hi ha⟩

/-- A start that is open before the stop token takes it up: who reads to the end is told that the
tokens have run out, of which there were enough. -/
theorem outOfTokens_of_open_start : ∃ (p : Scripted) (ids : IdSupply) (r : Request)
    (output : String) (items : List StreamItem) (t : Pool.Trace StreamItem) (q : Pool StreamItem),
    p.output r = .ok output ∧ (Token.ofText output).length ≤ (p.budget r).limit.toNat ∧
      p.turn ids r = .ok items ∧ Pool.Run p.pool t q ∧ t.entered[0]? = some items ∧
      .acquire ∈ t.moves 0 ∧ .read 0 .over ∈ t ∧ t.received 0 = items ∧
      Token.FirstStop output.toList ['<', '|'] Token.endOfTurn [] ∧
      items = [.ok .start, .ok (.complete .outOfTokens)] := by
  have houtput : output ⟨"local", [], some "<|", 8, 1⟩ (.new "m" []) = .ok "<|<|eot_id|>" := by
    with_unfolding_all rfl
  have htokens : Token.ofText "<|<|eot_id|>" = ["<|<|eot_id|>"] := by
    with_unfolding_all rfl
  have hb : (Token.ofText "<|<|eot_id|>").length ≤ 8 := by
    rw [htokens]
    decide
  have hturn : turn ⟨"local", [], some "<|", 8, 1⟩ (fun _ => "") (.new "m" []) =
      .ok [.ok .start, .ok (.complete .outOfTokens)] := by
    with_unfolding_all rfl
  have hfirst : Token.FirstStop "<|<|eot_id|>".toList ['<', '|'] Token.endOfTurn [] := by
    refine ⟨rfl, by decide, fun u stop v hs he => ?_⟩
    rcases u with - | ⟨a, - | ⟨b, u⟩⟩
    · rcases Token.isStop_iff.1 hs with rfl | rfl <;> simp [Token.endOfTurn, Token.endOfMessage] at he
    · rcases Token.isStop_iff.1 hs with rfl | rfl <;> simp [Token.endOfTurn, Token.endOfMessage] at he
    · simp
  obtain ⟨q, hrun⟩ : ∃ q, Pool.Run (pool ⟨"local", [], some "<|", 8, 1⟩)
      [.entered [.ok .start, .ok (.complete .outOfTokens)], .moved 0 .acquire, .moved 0 .send,
        .moved 0 .send, .moved 0 .finish, .read 0 (.item (.ok .start)),
        .read 0 (.item (.ok (.complete .outOfTokens))), .read 0 .over] q := by
    have hsent := (((((Pool.Run.nil (p := pool ⟨"local", [], some "<|", 8, 1⟩)).concat
      (.enter [.ok .start, .ok (.complete .outOfTokens)])).concat
      (.move (i := 0) (m := .acquire) rfl)).concat (.move (i := 0) (m := .send) rfl)).concat
      (.move (i := 0) (m := .send) rfl)).concat (.move (i := 0) (m := .finish) rfl)
    exact ⟨_, ((hsent.concat (.read (i := 0) rfl rfl)).concat (.read (i := 0) rfl rfl)).concat
      (.read (i := 0) rfl rfl)⟩
  exact ⟨_, _, _, _, _, _, q, houtput, hb, hturn, hrun, rfl,
    by simp [Pool.Trace.moves, Pool.Occurrence.move?], by simp, rfl, hfirst, rfl⟩

end Scripted

end ChatTurn
