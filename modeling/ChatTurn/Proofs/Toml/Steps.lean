import ChatTurn.Toml.Parser
import Mathlib.Data.Option.Basic

namespace ChatTurn.Toml.Parser

open Text (stripStart? stripStart?_eq_some_iff)

variable {α β : Type} {a b : Option α} {cs rest : List Char}

def keyAfter (n : Nat) (part : String) : List Char → Option (List String × List Char)
  | '.' :: cs => (key n cs).map fun p => (part :: p.1, p.2)
  | cs => some ([part], cs)

def atom (cs : List Char) : Option (Item × List Char) :=
  match string? cs with
  | some scanned => scanned.map fun (text, rest) => (.string (String.ofList text), rest)
  | none => Scalar.read? cs

def itemsAfter (n d : Nat) : List Char → Option (List Item × List Char)
  | ',' :: cs => items n d cs
  | ']' :: cs => some ([], cs)
  | _ => none

def itemsFrom (n d : Nat) : List Char → Option (List Item × List Char)
  | ']' :: cs => some ([], cs)
  | cs => (value n d cs).bind fun p => (skipLines n p.2).bind fun cs =>
    (itemsAfter n d cs).map fun q => (p.1 :: q.1, q.2)

def pair (n d : Nat) (cs : List Char) : Option ((List String × Item) × List Char) :=
  (key n cs).bind fun p => (stripStart? ['='] p.2).bind fun cs =>
    (value n d (skipBlanks cs)).map fun q => ((p.1, q.1), q.2)

def pairsAfter (n d : Nat) (es : Entries) : List Char → Option (Entries × List Char)
  | ',' :: cs => pairs n d es cs
  | '\x7d' :: cs => some (es, cs)
  | _ => none

def pairsFrom (n d : Nat) (es : Entries) : List Char → Option (Entries × List Char)
  | '\x7d' :: cs => some (es, cs)
  | cs => (pair n d cs).bind fun p => (addPair p.1.1 p.1.2 .inline es).bind fun es =>
    (skipLines n p.2).bind (pairsAfter n d es)

/-- A line under a header: the header of the next line, and what the line adds. -/
def line (n : Nat) (header : List String) :
    List Char → Option ((List String × (Entries → Option Entries)) × List Char)
  | '[' :: '[' :: cs => (key n cs).bind fun p => (stripStart? [']', ']'] p.2).bind fun cs =>
    (endLine cs).map fun cs => ((p.1, addElement p.1), cs)
  | '[' :: cs => (key n cs).bind fun p => (stripStart? [']'] p.2).bind fun cs =>
    (endLine cs).map fun cs => ((p.1, addTable p.1), cs)
  | cs => (pair n deepest cs).bind fun p =>
    (endLine p.2).map fun cs => ((header, addUnder header p.1.1 p.1.2), cs)

theorem key_succ (n : Nat) (cs : List Char) : key (n + 1) cs =
    (keyPart (skipBlanks cs)).bind fun p => keyAfter n p.1 (skipBlanks p.2) := by
  rw [key]
  refine Option.bind_congr fun p _ => ?_
  obtain ⟨part, rest⟩ := p
  dsimp only
  split
  · rename_i h
    rw [h, keyAfter, Option.map_eq_bind]
    rfl
  · rw [keyAfter]
    assumption

theorem value_atom {n d : Nat} (h : cs.head? ≠ some '[') (h' : cs.head? ≠ some '\x7b') :
    value (n + 1) d cs = atom cs := by
  unfold value
  dsimp only
  split
  · exact absurd rfl h
  · exact absurd rfl h'
  · exact absurd rfl h
  · exact absurd rfl h'
  · rfl

theorem items_succ (n d : Nat) (cs : List Char) :
    items (n + 1) d cs = (skipLines n cs).bind (itemsFrom n d) := by
  rw [items]
  refine Option.bind_congr fun cs _ => ?_
  split
  · rfl
  · next h =>
      rw [itemsFrom]
      · refine Option.bind_congr fun p _ => Option.bind_congr fun cs _ => ?_
        dsimp only
        split
        · rw [itemsAfter, Option.map_eq_bind]
          rfl
        · rfl
        · rw [itemsAfter] <;> first | rfl | assumption
      · exact h

theorem pairs_succ (n d : Nat) (es : Entries) (cs : List Char) :
    pairs (n + 1) d es cs = (skipLines n cs).bind (pairsFrom n d es) := by
  rw [pairs]
  refine Option.bind_congr fun cs _ => ?_
  split
  · rfl
  · next h =>
      rw [pairsFrom]
      · rw [pair, Option.bind_assoc]
        refine Option.bind_congr fun p _ => ?_
        obtain ⟨path, rest⟩ := p
        dsimp only
        split
        · rw [stripStart?, if_pos rfl, stripStart?, Option.bind_some, Option.bind_map]
          refine Option.bind_congr fun p _ => Option.bind_congr fun es _ => Option.bind_congr fun cs _ => ?_
          split
          · rfl
          · rfl
          · rw [pairsAfter] <;> assumption
        · next hn =>
            have hs : stripStart? ['='] rest = none :=
              Option.eq_none_iff_forall_ne_some.2 fun cs hcs => hn cs (stripStart?_eq_some_iff.1 hcs)
            rw [hs]
            rfl
      · exact h

theorem document_succ (n : Nat) (header : List String) (es : Entries) (cs : List Char) :
    document (n + 1) header es cs = (skipLines n cs).bind fun cs =>
      if cs.isEmpty then some es
      else (line n header cs).bind fun p => (p.1.2 es).bind fun es => document n p.1.1 es p.2 := by
  rw [document]
  refine Option.bind_congr fun cs _ => ?_
  split
  · rfl
  · rw [List.isEmpty_cons, if_neg Bool.false_ne_true, line, Option.bind_assoc]
    refine Option.bind_congr fun p _ => ?_
    rw [Option.bind_assoc]
    refine Option.bind_congr fun cs _ => ?_
    rw [Option.bind_map]
    exact Option.bind_comm _ _
  · next h _ =>
      rw [List.isEmpty_cons, if_neg Bool.false_ne_true, line, Option.bind_assoc]
      · refine Option.bind_congr fun p _ => ?_
        rw [Option.bind_assoc]
        refine Option.bind_congr fun cs _ => ?_
        rw [Option.bind_map]
        exact Option.bind_comm _ _
      · exact h
  · next hnil hcc hc =>
      rw [if_neg (by simpa using hnil), line, pair]
      · simp only [Option.bind_assoc, Option.bind_map]
        refine Option.bind_congr fun p _ => Option.bind_congr fun cs _ => Option.bind_congr fun q _ => ?_
        rw [Function.comp_apply, Option.bind_map]
        exact Option.bind_comm _ _
      · exact hcc
      · exact hc

/-- The same result, or none yet. -/
def Refines (a b : Option α) : Prop := a = none ∨ a = b

theorem Refines.refl (a : Option α) : Refines a a := .inr rfl

theorem Refines.trans {c : Option α} (h : Refines a b) (h' : Refines b c) : Refines a c := by
  rcases h with rfl | rfl
  · exact .inl rfl
  · exact h'

theorem Refines.bind {f g : α → Option β} (h : Refines a b) (hf : ∀ x, Refines (f x) (g x)) :
    Refines (a >>= f) (b >>= g) := by
  rcases h with rfl | rfl
  · exact .inl rfl
  · cases a with
    | none => exact .inl rfl
    | some x => exact hf x

theorem Refines.map {f : α → β} (h : Refines a b) : Refines (a.map f) (b.map f) := by
  rcases h with rfl | rfl
  · exact .inl rfl
  · exact .inr rfl

theorem Refines.of_le {f : Nat → Option α} (hf : ∀ n, Refines (f n) (f (n + 1))) {n m : Nat}
    (h : n ≤ m) : Refines (f n) (f m) := by
  induction h with
  | refl => exact .refl _
  | step _ ih => exact ih.trans (hf _)

theorem Refines.eq_some {x : α} (h : Refines a b) (ha : a = some x) : b = some x := by
  rcases h with rfl | rfl
  · cases ha
  · exact ha

theorem agree {f : Nat → Option α} (hf : ∀ n, Refines (f n) (f (n + 1))) {n m : Nat} {x y : α}
    (hx : f n = some x) (hy : f m = some y) : x = y := by
  have hx' := (Refines.of_le hf (Nat.le_max_left n m)).eq_some hx
  have hy' := (Refines.of_le hf (Nat.le_max_right n m)).eq_some hy
  exact Option.some.inj (hx'.symm.trans hy')

theorem skipLines_step (n : Nat) (cs : List Char) : Refines (skipLines n cs) (skipLines (n + 1) cs) := by
  induction n generalizing cs with
  | zero => exact .inl rfl
  | succ n ih =>
      rw [skipLines, skipLines]
      refine .bind (.refl _) fun rest => ?_
      cases newline? rest with
      | none => exact .refl _
      | some rest => exact ih rest

theorem key_step (n : Nat) (cs : List Char) : Refines (key n cs) (key (n + 1) cs) := by
  induction n generalizing cs with
  | zero => exact .inl rfl
  | succ n ih =>
      rw [key, key]
      refine .bind (.refl _) fun ⟨part, rest⟩ => ?_
      dsimp only
      split
      · exact .bind (ih _) fun _ => .refl _
      · exact .refl _

theorem value_step (n : Nat) :
    (∀ d cs, Refines (value n d cs) (value (n + 1) d cs)) ∧
      (∀ d cs, Refines (items n d cs) (items (n + 1) d cs)) ∧
        ∀ d es cs, Refines (pairs n d es cs) (pairs (n + 1) d es cs) := by
  induction n with
  | zero => exact ⟨fun _ _ => .inl rfl, fun _ _ => .inl rfl, fun _ _ _ => .inl rfl⟩
  | succ n ih =>
      obtain ⟨hv, hi, hp⟩ := ih
      refine ⟨fun d cs => ?_, fun d cs => ?_, fun d es cs => ?_⟩
      · unfold value
        dsimp only
        split
        · exact .refl _
        · exact .refl _
        · exact .map (hi _ _)
        · exact .map (hp _ _ _)
        · exact .refl _
      · rw [items_succ, items_succ]
        refine .bind (skipLines_step n cs) fun rest => ?_
        unfold itemsFrom
        split
        · exact .refl _
        · refine .bind (hv d _) fun p => .bind (skipLines_step n p.2) fun rest => .map ?_
          unfold itemsAfter
          split
          · exact hi d _
          · exact .refl _
          · exact .refl _
      · rw [pairs_succ, pairs_succ]
        refine .bind (skipLines_step n cs) fun rest => ?_
        have hpair : ∀ cs, Refines (pair n d cs) (pair (n + 1) d cs) := fun cs =>
          .bind (key_step n cs) fun _ => .bind (.refl _) fun _ => .map (hv d _)
        unfold pairsFrom
        split
        · exact .refl _
        · refine .bind (hpair _) fun p => .bind (.refl _) fun es =>
            .bind (skipLines_step n p.2) fun rest => ?_
          unfold pairsAfter
          split
          · exact hp d es _
          · exact .refl _
          · exact .refl _

theorem pair_step (n d : Nat) (cs : List Char) : Refines (pair n d cs) (pair (n + 1) d cs) :=
  .bind (key_step n cs) fun _ => .bind (.refl _) fun _ => .map ((value_step n).1 d _)

theorem line_step (n : Nat) (header : List String) (cs : List Char) :
    Refines (line n header cs) (line (n + 1) header cs) := by
  unfold line
  split
  · exact .bind (key_step n _) fun _ => .refl _
  · exact .bind (key_step n _) fun _ => .refl _
  · exact .bind (pair_step n _ _) fun _ => .refl _

theorem document_step (n : Nat) (header : List String) (es : Entries) (cs : List Char) :
    Refines (document n header es cs) (document (n + 1) header es cs) := by
  induction n generalizing header es cs with
  | zero => exact .inl rfl
  | succ n ih =>
      rw [document_succ, document_succ]
      refine .bind (skipLines_step n cs) fun rest => ?_
      split
      · exact .refl _
      · exact .bind (line_step n header rest) fun p => .bind (.refl _) fun es => ih p.1.1 es p.2

end ChatTurn.Toml.Parser
