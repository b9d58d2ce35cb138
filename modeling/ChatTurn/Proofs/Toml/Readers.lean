import ChatTurn.Proofs.Toml.Locality
import ChatTurn.Proofs.Toml.Steps
import Mathlib.Tactic.FinCases

namespace ChatTurn.Toml.Parser

open Text (stripStart?)

variable {cs rest t x y : List Char}

theorem IsLocal.after_skipBlanks {g : List Char → Option (α × List Char)} (hg : IsLocal g) :
    IsLocal fun cs => g (skipBlanks cs) :=
  (isLocal_takeWhile isBlank).bind fun _ => hg

theorem isLocal_newline? : IsLocal (passing newline?) := by
  refine (IsLocal.branch '\n' (.pure ()) (.branch '\r' (.branch '\n' (.pure ()) .fail) .fail)).congr
    fun cs => ?_
  unfold passing newline?
  split
  · rfl
  · rfl
  · next h h' =>
      rw [branch_of_ne h]
      by_cases hr : cs.head? = some '\r'
      · obtain ⟨cs, rfl⟩ := List.head?_eq_some_iff.1 hr
        have hnone : branch '\n' (fun cs => some ((), cs)) (fun _ => none) cs = none :=
          branch_of_ne fun rest he => h' rest (congrArg _ he)
        exact hnone.symm
      · exact (if_neg hr).symm

theorem isSome_newline?_ahead (y t t' : List Char) :
    (newline? (y ++ '"' :: t)).isSome = (newline? (y ++ '"' :: t')).isSome := by
  rcases y with _ | ⟨c, _ | ⟨d, y⟩⟩
  · rfl
  · by_cases hc : c = '\n' <;> simp [newline?, hc]
  · by_cases hc : c = '\n' <;> by_cases hr : c = '\r' <;> by_cases hd : d = '\n' <;>
      simp [newline?, hc, hr, hd]

theorem isLocal_skipComment : IsLocal (passing skipComment) := by
  have hend : IsLocal (passing fun cs =>
      if cs.isEmpty || (newline? cs).isSome then some cs else none) := by
    refine .of_test (p := fun cs => cs.isEmpty || (newline? cs).isSome)
      (g := fun b => passing fun cs => if b = true then some cs else none) (fun y t t' => ?_) fun b => ?_
    · cases y with
      | nil => rfl
      | cons c y => exact isSome_newline?_ahead (c :: y) t t'
    · cases b with
      | true => exact .pure ()
      | false => exact .fail
  have hbody := (isLocal_takeWhile isPlain).bind fun _ => hend
  refine (IsLocal.branch '#' hbody (.pure ())).after_skipBlanks.congr fun cs => ?_
  unfold passing skipComment
  split
  · next h =>
      rw [h]
      rfl
  · next h =>
      rw [branch_of_ne h]
      rfl

theorem isLocal_skipLines (n : Nat) : IsLocal (passing (skipLines n)) := by
  induction n with
  | zero => exact .fail
  | succ n ih =>
      refine (isLocal_skipComment.bind_passing
        (isLocal_newline?.orElse isSome_newline?_ahead ih (.pure ()))).congr fun cs => ?_
      rw [passing, skipLines]
      cases skipComment cs with
      | none => rfl
      | some rest =>
          rw [Option.bind_some, Option.bind_eq_bind, Option.bind_some]
          cases newline? rest <;> rfl

theorem isLocal_endLine : IsLocal (passing endLine) := by
  have hempty : IsLocal (passing fun cs => if cs.isEmpty then some [] else newline? cs) := by
    refine .of_test (p := List.isEmpty) (g := fun b => passing fun cs =>
      if b = true then some [] else newline? cs) (fun y t t' => by cases y <;> rfl) fun b => ?_
    cases b with
    | true => exact ⟨fun h => by cases h; exact List.nil_suffix, fun {_ _ _ y} h => by cases y <;> cases h⟩
    | false => exact isLocal_newline?
  refine (isLocal_skipComment.bind_passing hempty).congr fun cs => ?_
  rw [passing, endLine]
  cases skipComment cs <;> rfl

theorem isLocal_stripStart? (pat : List Char) : IsLocal (passing (Text.stripStart? pat)) := by
  induction pat with
  | nil => exact .pure ()
  | cons p pat ih =>
      refine .of_head p (fun cs => ?_) (fun cs hcs => ?_) ih .fail
      · rw [passing, Text.stripStart?, if_pos rfl, passing]
      · rw [passing]
        cases cs with
        | nil => rfl
        | cons c cs =>
            rw [Text.stripStart?, if_neg fun h => hcs (congrArg some h.symm)]
            rfl

theorem isLocal_take (n : Nat) :
    IsLocal fun cs => if cs.length < n then none else some (cs.take n, cs.drop n) where
  suffix h := by
    split at h
    · cases h
    · cases h
      exact List.drop_suffix n _
  ahead := by
    intro x t a y h t'
    split at h
    · cases h
    · obtain ⟨rfl, hr⟩ := Prod.mk.inj (Option.some.inj h)
      have hn : n ≤ x.length := by
        have hl := congrArg List.length hr
        simp only [List.length_drop, List.length_append, List.length_cons] at hl
        omega
      rw [List.drop_append_of_le_length hn] at hr
      rw [List.take_append_of_le_length hn, List.take_append_of_le_length hn,
        List.drop_append_of_le_length hn, List.append_cancel_right hr, if_neg]
      rw [List.length_append]
      omega

theorem isLocal_codePoint? (n : Nat) : IsLocal (codePoint? n) := by
  refine ((isLocal_take n).filterMap fun ds => (hexValue? ds).bind fun code =>
    if code.isValidChar then some (Char.ofNat code) else none).congr fun cs => ?_
  rw [codePoint?]
  split
  · rfl
  · simp only [Option.bind_eq_bind, Option.bind_some, Option.map_bind]
    cases hexValue? (cs.take n) with
    | none => rfl
    | some code =>
        by_cases hc : code.isValidChar <;> simp [hc]

theorem escape?_cons (c : Char) : (∃ d, ∀ cs, escape? (c :: cs) = some (d, cs)) ∨
    (∃ n, ∀ cs, escape? (c :: cs) = codePoint? n cs) ∨ ∀ cs, escape? (c :: cs) = none := by
  by_cases h : c ∈ ['b', 't', 'n', 'f', 'r', 'e', '"', '\\']
  · left
    fin_cases h <;> exact ⟨_, fun _ => rfl⟩
  right
  by_cases h' : c ∈ ['x', 'u', 'U']
  · left
    fin_cases h' <;> exact ⟨_, fun _ => rfl⟩
  · right
    intro cs
    unfold escape?
    split <;> simp_all

theorem isLocal_escape? : IsLocal escape? := by
  refine .of_cons rfl fun c => ?_
  obtain ⟨d, h⟩ | ⟨n, h⟩ | h := escape?_cons c
  · exact (IsLocal.pure d).congr h
  · exact (isLocal_codePoint? n).congr h
  · exact IsLocal.fail.congr h

theorem basic_escape (n : Nat) (cs : List Char) : basic (n + 1) ('\\' :: cs) =
    (escape? cs).bind fun p => (basic n p.2).map fun q => (p.1 :: q.1, q.2) := by
  rw [basic, Option.bind_eq_bind]
  cases escape? cs with
  | none => rfl
  | some p =>
      rw [Option.bind_some, Option.bind_some]
      cases h : basic n p.2 <;> simp [h]

theorem basic_cons {c : Char} (hq : c ≠ '"') (hb : c ≠ '\\') (n : Nat) (cs : List Char) :
    basic (n + 1) (c :: cs) =
      if isPlain c then (basic n cs).map fun p => (c :: p.1, p.2) else none := by
  rw [basic]
  · exact hq
  · exact hb

theorem isLocal_basic (n : Nat) : IsLocal (basic n) := by
  induction n with
  | zero => exact .fail
  | succ n ih =>
      refine .of_cons rfl fun c => ?_
      by_cases hq : c = '"'
      · subst hq
        exact .pure []
      by_cases hb : c = '\\'
      · subst hb
        exact (isLocal_escape?.bind fun d => ih.map (g := (d :: ·))).congr (basic_escape n)
      by_cases hc : isPlain c = true
      · refine ih.map (g := (c :: ·)).congr fun cs => ?_
        rw [basic_cons hq hb, if_pos hc]
      · refine IsLocal.fail.congr fun cs => ?_
        rw [basic_cons hq hb, if_neg hc]

theorem basic_enough {n m : Nat} {cs : List Char} {r : List Char × List Char}
    (h : basic n cs = some r) (hm : cs.length < m) : basic m cs = some r := by
  induction n generalizing cs m r with
  | zero => cases h
  | succ n ih =>
      obtain ⟨m, rfl⟩ := Nat.exists_eq_add_one_of_ne_zero (Nat.ne_zero_of_lt hm)
      cases cs with
      | nil => cases h
      | cons c cs =>
          rw [List.length_cons] at hm
          by_cases hq : c = '"'
          · subst hq
            exact h
          by_cases hb : c = '\\'
          · subst hb
            rw [basic_escape, Option.bind_eq_some_iff] at h ⊢
            obtain ⟨p, he, h⟩ := h
            obtain ⟨q, hq, h⟩ := Option.map_eq_some_iff.1 h
            have hlen := (isLocal_escape?.suffix he).length_le
            exact ⟨p, he, Option.map_eq_some_iff.2 ⟨q, ih hq (by omega), h⟩⟩
          · rw [basic_cons hq hb] at h ⊢
            split at h
            · obtain ⟨p, hp, h⟩ := Option.map_eq_some_iff.1 h
              rw [if_pos ‹_›]
              exact Option.map_eq_some_iff.2 ⟨p, ih hp (by omega), h⟩
            · cases h

theorem isLocal_quoted : IsLocal quoted := by
  refine ((isLocal_takeWhile fun c => isPlain c && c != '\'').bind fun text =>
    .branch '\'' (.pure text) .fail).congr fun cs => ?_
  unfold quoted
  split
  · next h =>
      rw [Option.bind_some, h]
      rfl
  · next h =>
      rw [Option.bind_some, branch_of_ne h]

theorem closing_append {q : Char} (hx : ∃ c ∈ x, (c == q) = false) (t : List Char) :
    closing q (x ++ t) = (closing q x).map fun p => (p.1, p.2 ++ t) := by
  have hlen : (x.takeWhile (· == q)).length ≠ x.length := by
    intro h
    obtain ⟨c, hc, hne⟩ := hx
    rw [← (List.takeWhile_prefix _).eq_of_length h] at hc
    have := List.all_eq_true.1 List.all_takeWhile c hc
    rw [hne] at this
    cases this
  have hle : (x.takeWhile (· == q)).length ≤ x.length := (List.takeWhile_prefix _).length_le
  rw [closing, closing, List.takeWhile_append, if_neg hlen]
  dsimp only
  split
  · rfl
  · rw [List.drop_append_of_le_length (by omega)]
    rfl

theorem isLocal_continued : IsLocal (passing continued) := by
  refine (IsLocal.after_skipBlanks (isLocal_newline?.bind fun _ => isLocal_takeWhile fun c =>
    isBlank c || c == '\n' || c == '\r')).map (g := fun _ => ()) |>.congr fun cs => ?_
  rw [passing, continued, passing]
  cases newline? (skipBlanks cs) <;> rfl

theorem skipBlanks_append (y t : List Char) : skipBlanks (y ++ '"' :: t) = skipBlanks y ++ '"' :: t := by
  rw [skipBlanks, List.dropWhile_append]
  split
  · next h =>
      rw [skipBlanks, List.isEmpty_iff.1 h]
      rfl
  · rfl

theorem isSome_continued_ahead (y t t' : List Char) :
    (continued (y ++ '"' :: t)).isSome = (continued (y ++ '"' :: t')).isSome := by
  rw [continued, continued, Option.isSome_map, Option.isSome_map, skipBlanks_append, skipBlanks_append,
    isSome_newline?_ahead (skipBlanks y) t t']

theorem exists_of_newline? (h : newline? cs = some rest) : ∃ c tail, cs = c :: tail ∧ rest <:+ tail := by
  unfold newline? at h
  split at h
  · cases h
    exact ⟨_, _, rfl, List.suffix_refl _⟩
  · cases h
    exact ⟨_, _, rfl, List.suffix_cons _ _⟩
  · cases h

theorem length_of_newline? (h : newline? cs = some rest) : rest.length < cs.length := by
  obtain ⟨c, tail, rfl, hs⟩ := exists_of_newline? h
  exact Nat.lt_succ_of_le hs.length_le

/-- What a string of several lines has at a place where it does not end. -/
def inner (q : Char) (n : Nat) (cs : List Char) : Scanned :=
  match newline? cs with
  | some rest => (lines q n rest).map fun p => ('\n' :: p.1, p.2)
  | none =>
    match cs with
    | [] => none
    | c :: cs =>
      if c = '\\' ∧ q = '"' then
        match continued cs with
        | some rest => lines q n rest
        | none => (escape? cs).bind fun p => (lines q n p.2).map fun r => (p.1 :: r.1, r.2)
      else if isPlain c then (lines q n cs).map fun p => (c :: p.1, p.2)
      else none

theorem lines_succ (q : Char) (n : Nat) (cs : List Char) : lines q (n + 1) cs =
    match closing q cs with
    | some done => some done
    | none => inner q n cs := by
  rw [lines.eq_def]
  dsimp only
  cases closing q cs with
  | some done => rfl
  | none =>
      unfold inner
      cases newline? cs with
      | some rest => rfl
      | none =>
          cases cs with
          | nil => rfl
          | cons c cs =>
              dsimp only
              split
              · cases continued cs with
                | some rest => rfl
                | none =>
                    cases escape? cs with
                    | none => rfl
                    | some p => cases h : lines q n p.2 <;> simp [h]
              · rfl

theorem isLocal_inner {q : Char} {n : Nat} (hn : IsLocal (lines q n)) : IsLocal (inner q n) := by
  refine isLocal_newline?.orElse isSome_newline?_ahead (hn.map (g := ('\n' :: ·)))
    (.of_cons rfl fun c => ?_)
  dsimp only
  split
  · exact isLocal_continued.orElse isSome_continued_ahead hn
      (isLocal_escape?.bind fun d => hn.map (g := (d :: ·)))
  · split
    · exact hn.map (g := (c :: ·))
    · exact .fail

theorem drop_suffix_tail {n : Nat} (hn : 0 < n) (cs : List Char) : cs.drop n <:+ cs.tail := by
  obtain ⟨n, rfl⟩ := Nat.exists_eq_add_one_of_ne_zero hn.ne'
  rw [← List.drop_one, Nat.add_comm, ← List.drop_drop]
  exact List.drop_suffix n _

theorem exists_of_inner {q : Char} {n : Nat} {r : List Char × List Char} (h : inner q n cs = some r) :
    ∃ cs' r', lines q n cs' = some r' ∧ cs' <:+ cs.tail ∧ cs ≠ [] ∧ r.2 = r'.2 ∧
      ∀ m, lines q m cs' = some r' → inner q m cs = some r := by
  unfold inner at h ⊢
  split at h
  · next rest hnew =>
      obtain ⟨p, hp, rfl⟩ := Option.map_eq_some_iff.1 h
      obtain ⟨c, tail, rfl, hs⟩ := exists_of_newline? hnew
      exact ⟨rest, p, hp, hs, List.cons_ne_nil _ _, rfl, fun m hm =>
        Option.map_eq_some_iff.2 ⟨p, hm, rfl⟩⟩
  · cases cs with
    | nil => cases h
    | cons c cs =>
        dsimp only at h ⊢
        split at h
        · next hb =>
            simp only [if_pos hb]
            split at h
            · next rest hcont =>
                have hs := isLocal_continued.suffix (congrArg (Option.map ((), ·)) hcont)
                exact ⟨rest, r, h, hs, List.cons_ne_nil _ _, rfl, fun m hm => hm⟩
            · obtain ⟨p, hp, h⟩ := Option.bind_eq_some_iff.1 h
              obtain ⟨x, hx, rfl⟩ := Option.map_eq_some_iff.1 h
              exact ⟨p.2, x, hx, isLocal_escape?.suffix hp, List.cons_ne_nil _ _, rfl, fun m hm =>
                Option.bind_eq_some_iff.2 ⟨p, hp, Option.map_eq_some_iff.2 ⟨x, hm, rfl⟩⟩⟩
        · next hb =>
            simp only [if_neg hb]
            split at h
            · next hplain =>
                simp only [if_pos hplain]
                obtain ⟨p, hp, rfl⟩ := Option.map_eq_some_iff.1 h
                exact ⟨cs, p, hp, List.suffix_refl _, List.cons_ne_nil _ _, rfl, fun m hm =>
                  Option.map_eq_some_iff.2 ⟨p, hm, rfl⟩⟩
            · cases h

theorem lines_suffix_tail {q : Char} {n : Nat} {text : List Char}
    (h : lines q n cs = some (text, rest)) : rest <:+ cs.tail := by
  induction n generalizing cs text rest with
  | zero => cases h
  | succ n ih =>
      rw [lines_succ] at h
      split at h
      · next hc =>
          cases h
          rw [closing] at hc
          dsimp only at hc
          split at hc
          · cases hc
          · cases hc
            exact drop_suffix_tail (by omega) cs
      · obtain ⟨cs', ⟨text', rest'⟩, hlines, hs, -, rfl, -⟩ := exists_of_inner h
        exact ((ih hlines).trans (List.tail_suffix _)).trans hs

theorem exists_count_quotes (hx : ∀ c ∈ x, c = '"') (t : List Char) :
    ∃ k, ((x ++ '"' :: t).takeWhile (· == '"')).length = x.length + (k + 1) := by
  refine ⟨(t.takeWhile (· == '"')).length, ?_⟩
  rw [List.takeWhile_append_of_pos (by simpa using hx), List.length_append,
    List.takeWhile_cons_of_pos (by rfl), List.length_cons]

/-- Quotes that run up to a quote close the text before that quote just if they are five or more. -/
theorem closing_quotes {a : List Char} (hx : ∀ c ∈ x, c = '"')
    (h : closing '"' (x ++ '"' :: t) = some (a, y ++ '"' :: t)) (t' : List Char) :
    closing '"' (x ++ '"' :: t') = some (a, y ++ '"' :: t') := by
  obtain ⟨k, hk⟩ := exists_count_quotes hx t
  obtain ⟨k', hk'⟩ := exists_count_quotes hx t'
  rw [closing, hk] at h
  rw [closing, hk']
  dsimp only at h ⊢
  split at h
  · cases h
  · obtain ⟨ha, hr⟩ := Prod.mk.inj (Option.some.inj h)
    have hlen := congrArg List.length hr
    simp only [List.length_drop, List.length_append, List.length_cons] at hlen
    have hfive : 5 ≤ x.length := by omega
    have htwo : ∀ k, min (x.length + (k + 1) - 3) 2 = 2 := by omega
    rw [htwo] at ha hr
    rw [List.drop_append_of_le_length hfive] at hr
    rw [htwo, if_neg (by omega), List.drop_append_of_le_length hfive, ha, List.append_cancel_right hr]

theorem lines_quotes {n : Nat} {text : List Char} (hx : ∀ c ∈ x, c = '"')
    (hc : closing '"' (x ++ '"' :: t) = none) (h : lines '"' n (x ++ '"' :: t) = some (text, rest)) :
    rest <:+ t := by
  have hlt : x.length < 2 := by
    obtain ⟨k, hk⟩ := exists_count_quotes hx t
    rw [closing, hk] at hc
    dsimp only at hc
    split at hc
    · omega
    · cases hc
  rcases x with _ | ⟨c, _ | ⟨d, x⟩⟩
  · exact lines_suffix_tail h
  · obtain rfl : c = '"' := hx c List.mem_cons_self
    cases n with
    | zero => cases h
    | succ n =>
        rw [lines_succ, hc] at h
        obtain ⟨p, hp, h⟩ := Option.map_eq_some_iff.1 h
        cases h
        exact lines_suffix_tail hp
  · simp only [List.length_cons] at hlt
    omega

theorem isLocal_lines (q : Char) (n : Nat) : IsLocal (lines q n) := by
  induction n with
  | zero => exact .fail
  | succ n ih =>
      refine ⟨fun h => (lines_suffix_tail h).trans (List.tail_suffix _), ?_⟩
      intro x t a y h t'
      -- Quotes alone run into the quote behind them, and may close the text together with it.
      by_cases hx : ∃ c ∈ x ++ ['"'], (c == q) = false
      · have hclosing : ∀ t, closing q (x ++ '"' :: t) =
            (closing q (x ++ ['"'])).map fun p => (p.1, p.2 ++ t) := by
          intro t
          rw [← closing_append hx, List.append_assoc]
          rfl
        rw [lines_succ, hclosing] at h ⊢
        cases hp : closing q (x ++ ['"']) with
        | none =>
            rw [hp] at h
            exact (isLocal_inner ih).ahead h t'
        | some p =>
            rw [hp] at h
            obtain ⟨rfl, hr⟩ := Prod.mk.inj (Option.some.inj h)
            have hy : p.2 = y ++ ['"'] := by
              rw [List.append_cons] at hr
              exact List.append_cancel_right hr
            change some (p.1, p.2 ++ t') = _
            rw [hy, List.append_assoc]
            rfl
      · simp only [not_exists, not_and, Bool.not_eq_false, beq_iff_eq] at hx
        obtain rfl : '"' = q := hx '"' (List.mem_append_right _ List.mem_cons_self)
        replace hx : ∀ c ∈ x, c = '"' := fun c hc => hx c (List.mem_append_left _ hc)
        cases hc : closing '"' (x ++ '"' :: t) with
        | none => exact absurd (lines_quotes hx hc h) (not_suffix y t '"')
        | some p =>
            rw [lines_succ, hc] at h
            cases h
            rw [lines_succ, closing_quotes hx hc t']

theorem lines_enough {q : Char} {n m : Nat} {r : List Char × List Char}
    (h : lines q n cs = some r) (hm : cs.length < m) : lines q m cs = some r := by
  induction n generalizing cs m r with
  | zero => cases h
  | succ n ih =>
      obtain ⟨m, rfl⟩ := Nat.exists_eq_add_one_of_ne_zero (Nat.ne_zero_of_lt hm)
      rw [lines_succ] at h ⊢
      cases hc : closing q cs with
      | some p =>
          rw [hc] at h
          exact h
      | none =>
          rw [hc] at h
          obtain ⟨cs', r', hlines, hs, hne, -, hinner⟩ := exists_of_inner h
          have hlen := hs.length_le
          have hpos := List.length_pos_iff.2 hne
          rw [List.length_tail] at hlen
          exact hinner m (ih hlines (by omega))

theorem isLocal_manyLines (q : Char) : IsLocal (manyLines q) := by
  have hlines : IsLocal fun cs => lines q (cs.length + 1) cs := .of_fuel (isLocal_lines q) lines_enough
  refine (isLocal_newline?.orElse isSome_newline?_ahead hlines hlines).congr fun cs => ?_
  rw [manyLines]
  cases h : newline? cs with
  | none => rfl
  | some rest =>
      have hlen := length_of_newline? h
      refine Option.ext fun r => ⟨fun hr => lines_enough hr (Nat.lt_succ_self _), fun hr => ?_⟩
      exact lines_enough hr (Nat.lt_succ_of_lt hlen)

def opened (q : Char) (single : List Char → Scanned) (cs : List Char) : Scanned :=
  match Text.stripStart? [q, q] cs with
  | some rest => manyLines q rest
  | none => single cs

theorem isLocal_opened {q : Char} {single : List Char → Scanned} (hs : IsLocal single)
    (hq : ∀ cs, single (q :: cs) = some ([], cs)) : IsLocal (opened q single) := by
  refine (IsLocal.branch q (.branch q (isLocal_manyLines q) (.pure [])) hs).congr fun cs => ?_
  unfold opened
  split
  · next rest h =>
      rw [Text.stripStart?_eq_some_iff.1 h]
      exact ((if_pos rfl).trans (if_pos rfl)).symm
  · next h =>
      by_cases hcs : cs.head? = some q
      · obtain ⟨cs, rfl⟩ := List.head?_eq_some_iff.1 hcs
        have hsingle : branch q (manyLines q) (fun cs => some ([], cs)) cs = some ([], cs) :=
          branch_of_ne fun rest he => by simp [he, Text.stripStart?] at h
        exact (hq cs).trans ((if_pos rfl).trans hsingle).symm
      · exact (if_neg hcs).symm

def isTimeAhead : List Char → Bool
  | ' ' :: c :: _ => Double.isDigit c
  | _ => false

def spanAfter (text : List Char) : List Char → List Char × List Char
  | ' ' :: cs => (text ++ ' ' :: cs.takeWhile Scalar.isPart, cs.dropWhile Scalar.isPart)
  | cs => (text, cs)

theorem isTimeAhead_ahead (y t t' : List Char) :
    isTimeAhead (y ++ '"' :: t) = isTimeAhead (y ++ '"' :: t') := by
  rcases y with _ | ⟨c, _ | ⟨d, y⟩⟩
  · rfl
  · by_cases hc : c = ' ' <;> simp [isTimeAhead, hc]
  · by_cases hc : c = ' ' <;> simp [isTimeAhead, hc]

theorem span_eq (cs : List Char) : Scalar.span cs =
    if ((Scalar.date? (cs.takeWhile Scalar.isPart)).map (·.2) == some [] &&
      isTimeAhead (cs.dropWhile Scalar.isPart)) = true then
      spanAfter (cs.takeWhile Scalar.isPart) (cs.dropWhile Scalar.isPart)
    else (cs.takeWhile Scalar.isPart, cs.dropWhile Scalar.isPart) := by
  rw [Scalar.span]
  generalize cs.takeWhile Scalar.isPart = text
  generalize cs.dropWhile Scalar.isPart = rest
  split
  · next hd =>
      rw [hd]
      rfl
  · next h =>
      rw [if_neg]
      rw [Bool.and_eq_true, beq_iff_eq]
      rintro ⟨hd, ht⟩
      unfold isTimeAhead at ht
      split at ht
      · exact h _ _ hd rfl
      · cases ht

theorem isLocal_read? : IsLocal Scalar.read? := by
  have hafter : ∀ text, IsLocal fun cs => some (spanAfter text cs) := by
    intro text
    refine .of_head ' ' (fun cs => rfl) (fun cs hcs => ?_)
      ((isLocal_takeWhile Scalar.isPart).map (g := fun more => text ++ ' ' :: more)) (.pure text)
    rw [spanAfter]
    rintro cs rfl
    exact hcs rfl
  have hspan : IsLocal fun cs => some (Scalar.span cs) := by
    refine ((isLocal_takeWhile Scalar.isPart).bind (g := fun text cs =>
      if ((Scalar.date? text).map (·.2) == some [] && isTimeAhead cs) = true then
        some (spanAfter text cs) else some (text, cs)) fun text => ?_).congr fun cs => ?_
    · refine .of_test (p := fun cs => (Scalar.date? text).map (·.2) == some [] && isTimeAhead cs)
        (g := fun b cs => if b = true then some (spanAfter text cs) else some (text, cs))
        (fun y t t' => by rw [isTimeAhead_ahead y t t']) fun b => ?_
      cases b with
      | true => exact hafter text
      | false => exact .pure text
    · rw [span_eq, Option.bind_some]
      split <;> rfl
  exact (hspan.filterMap Scalar.item?).congr fun cs => rfl

theorem opened_of_ne {q : Char} {single : List Char → Scanned}
    (h : ∀ rest, cs = q :: q :: rest → False) : opened q single cs = single cs := by
  have hn : Text.stripStart? [q, q] cs = none := by
    rw [Option.eq_none_iff_forall_ne_some]
    exact fun rest hr => h rest (Text.stripStart?_eq_some_iff.1 hr)
  rw [opened, hn]

theorem string?_double (cs : List Char) :
    string? ('"' :: cs) = some (opened '"' (fun cs => basic (cs.length + 1) cs) cs) := by
  unfold string?
  split <;> simp_all
  · rfl
  · rw [opened_of_ne]
    assumption

theorem string?_single (cs : List Char) : string? ('\'' :: cs) = some (opened '\'' quoted cs) := by
  unfold string?
  split <;> simp_all
  · rfl
  · rw [opened_of_ne]
    assumption

theorem string?_eq_none (h : cs.head? ≠ some '"') (h' : cs.head? ≠ some '\'') : string? cs = none := by
  unfold string?
  split <;> simp_all

theorem isLocal_atom : IsLocal atom := by
  have hbasic : IsLocal (opened '"' fun cs => basic (cs.length + 1) cs) :=
    isLocal_opened (.of_fuel isLocal_basic basic_enough) fun _ => rfl
  have hquoted : IsLocal (opened '\'' quoted) := isLocal_opened isLocal_quoted fun _ => rfl
  refine .of_head '"' (fun cs => by rw [atom, string?_double]) (k := fun cs =>
    if cs.head? = some '\'' then atom cs else Scalar.read? cs) (fun cs hcs => ?_)
    (hbasic.map (g := fun text => Item.string (String.ofList text))) ?_
  · split
    · rfl
    · next hs => rw [atom, string?_eq_none hcs hs]
  · refine .of_head '\'' (fun cs => ?_) (fun cs hcs => if_neg hcs)
      (hquoted.map (g := fun text => Item.string (String.ofList text))) isLocal_read?
    rw [List.head?_cons, if_pos rfl, atom, string?_single]

theorem isLocal_keyPart : IsLocal keyPart := by
  have hbare : IsLocal fun cs => if (cs.takeWhile isBare).isEmpty then none else
      some (String.ofList (cs.takeWhile isBare), cs.dropWhile isBare) := by
    refine ((isLocal_takeWhile isBare).filterMap fun text =>
      if text.isEmpty then none else some (String.ofList text)).congr fun cs => ?_
    rw [Option.bind_some]
    split <;> simp_all
  have hbasic : IsLocal fun cs => basic (cs.length + 1) cs := .of_fuel isLocal_basic basic_enough
  refine (IsLocal.branch '"' (hbasic.map (g := String.ofList))
    (.branch '\'' (isLocal_quoted.map (g := String.ofList)) hbare)).congr fun cs => ?_
  unfold keyPart
  split
  · rfl
  · rfl
  · next h h' => rw [branch_of_ne h, branch_of_ne h']

theorem isLocal_key (n : Nat) : IsLocal (key n) := by
  induction n with
  | zero => exact .fail
  | succ n ih =>
      have hafter : ∀ part, IsLocal (keyAfter n part) := fun part =>
        .of_head '.' (fun _ => rfl) (fun cs hcs => keyAfter.eq_2 _ _ _ (by rintro cs rfl; exact hcs rfl))
          (ih.map (g := (part :: ·))) (.pure [part])
      have h : IsLocal fun cs => (keyPart cs).bind fun p => keyAfter n p.1 (skipBlanks p.2) :=
        isLocal_keyPart.bind fun part => .after_skipBlanks (hafter part)
      exact h.after_skipBlanks.congr (key_succ n)

theorem isLocal_itemsAfter {n d : Nat} (hn : IsLocal (items n d)) : IsLocal (itemsAfter n d) := by
  refine (IsLocal.branch ',' hn (.branch ']' (.pure []) .fail)).congr fun cs => ?_
  unfold itemsAfter
  split
  · rfl
  · rfl
  · next h h' => rw [branch_of_ne h, branch_of_ne h']

theorem isLocal_itemsFrom {n d : Nat} (hv : IsLocal (value n d)) (hi : IsLocal (items n d)) :
    IsLocal (itemsFrom n d) := by
  refine .of_head ']' (fun _ => rfl) (fun cs hcs => itemsFrom.eq_2 _ _ _ ?_) (.pure [])
    (hv.bind fun i => (isLocal_skipLines n).bind_passing ((isLocal_itemsAfter hi).map (g := (i :: ·))))
  rintro cs rfl
  exact hcs rfl

theorem isLocal_pair {n d : Nat} (hv : IsLocal (value n d)) : IsLocal (pair n d) := by
  have hvalue : ∀ path : List String, IsLocal fun cs => (stripStart? ['='] cs).bind fun cs =>
      (value n d (skipBlanks cs)).map fun q => ((path, q.1), q.2) := fun path =>
    (isLocal_stripStart? ['=']).bind_passing (.after_skipBlanks (hv.map (g := fun i => (path, i))))
  exact (isLocal_key n).bind hvalue

theorem isLocal_pairsAfter {n d : Nat} {es : Entries} (hp : IsLocal (pairs n d es)) :
    IsLocal (pairsAfter n d es) := by
  refine (IsLocal.branch ',' hp (.branch '\x7d' (.pure es) .fail)).congr fun cs => ?_
  unfold pairsAfter
  split
  · rfl
  · rfl
  · next h h' => rw [branch_of_ne h, branch_of_ne h']

theorem isLocal_pairsFrom {n d : Nat} {es : Entries} (hv : IsLocal (value n d))
    (hp : ∀ es, IsLocal (pairs n d es)) : IsLocal (pairsFrom n d es) := by
  refine .of_head '\x7d' (fun _ => rfl) (fun cs hcs => pairsFrom.eq_2 _ _ _ _ ?_) (.pure es)
    ((isLocal_pair hv).bind (g := fun p cs => (addPair p.1 p.2 .inline es).bind fun es =>
      (skipLines n cs).bind (pairsAfter n d es)) fun p => ?_)
  · rintro cs rfl
    exact hcs rfl
  · cases addPair p.1 p.2 .inline es with
    | none => exact .fail
    | some es => exact (isLocal_skipLines n).bind_passing (isLocal_pairsAfter (hp es))

theorem isLocal_value (n : Nat) : (∀ d, IsLocal (value n d)) ∧ (∀ d, IsLocal (items n d)) ∧
    ∀ d es, IsLocal (pairs n d es) := by
  induction n with
  | zero => exact ⟨fun _ => .fail, fun _ => .fail, fun _ _ => .fail⟩
  | succ n ih =>
      obtain ⟨hv, hi, hp⟩ := ih
      refine ⟨fun d => ?_, fun d => ?_, fun d es => ?_⟩
      · cases d with
        | zero =>
            refine .of_head '[' (fun cs => rfl) (k := fun cs =>
              if cs.head? = some '\x7b' then none else atom cs) (fun cs hcs => ?_) .fail ?_
            · split
              · next h =>
                  obtain ⟨rest, rfl⟩ := List.head?_eq_some_iff.1 h
                  rfl
              · next h => exact value_atom hcs h
            · exact .of_head '\x7b' (fun cs => rfl) (fun cs hcs => if_neg hcs) .fail isLocal_atom
        | succ d =>
            refine .of_head '[' (fun cs => rfl) (k := fun cs =>
              if cs.head? = some '\x7b' then value (n + 1) (d + 1) cs else atom cs) (fun cs hcs => ?_)
              ((hi d).map (g := Item.array)) ?_
            · split
              · rfl
              · next h => exact value_atom hcs h
            · exact .of_head '\x7b' (fun cs => rfl) (fun cs hcs => if_neg hcs)
                ((hp d []).map (g := Item.table .inline)) isLocal_atom
      · exact ((isLocal_skipLines n).bind_passing (isLocal_itemsFrom (hv d) (hi d))).congr (items_succ n d)
      · exact ((isLocal_skipLines n).bind_passing (isLocal_pairsFrom (hv d) (hp d))).congr
          (pairs_succ n d es)

theorem isLocal_line (n : Nat) (header : List String) : IsLocal (line n header) := by
  have hname : ∀ (close : List Char) (add : List String → Entries → Option Entries), IsLocal fun cs =>
      (key n cs).bind fun p => (stripStart? close p.2).bind fun cs =>
        (endLine cs).map fun cs => ((p.1, add p.1), cs) := by
    intro close add
    have hend : ∀ path, IsLocal fun cs => (stripStart? close cs).bind fun cs =>
        (endLine cs).map fun cs => ((path, add path), cs) := fun path =>
      (isLocal_stripStart? close).bind_passing (isLocal_endLine.map_passing (path, add path))
    exact (isLocal_key n).bind hend
  have hpair : IsLocal fun cs => (pair n deepest cs).bind fun p => (endLine p.2).map fun cs =>
      ((header, addUnder header p.1.1 p.1.2), cs) := by
    have hend : ∀ p : List String × Item, IsLocal fun cs =>
        (endLine cs).map fun cs => ((header, addUnder header p.1 p.2), cs) := fun p =>
      isLocal_endLine.map_passing (header, addUnder header p.1 p.2)
    exact (isLocal_pair ((isLocal_value n).1 deepest)).bind hend
  refine .of_head '[' (fun _ => rfl) (fun cs hcs => line.eq_3 _ _ _ ?_ ?_)
    (.of_head '[' (fun _ => rfl) (fun cs hcs => line.eq_2 _ _ _ ?_) (hname _ addElement)
      (hname _ addTable)) hpair
  · rintro cs rfl
    exact hcs rfl
  · rintro cs rfl
    exact hcs rfl
  · rintro cs rfl
    exact hcs rfl

end ChatTurn.Toml.Parser
