import ChatTurn.Proofs.Json.Writing
import ChatTurn.Proofs.Text.Occurrence
import ChatTurn.Proofs.Tool.JsonText

namespace ChatTurn

namespace Json

theorem Literal.mem_text {l : Literal} {c : Char} (h : l.IsSound) (hc : c ∈ l.text) :
    Parser.isDigit c = true ∨ c ∈ ['-', '+', '.', 'e'] := by
  simp only [text, tailText, List.mem_append] at hc
  rcases hc with hc | hc | hc | hc
  · split at hc
    · rw [List.mem_singleton.1 hc]
      exact .inr (by decide)
    · cases hc
  · exact .inl (h.whole c hc)
  · cases hf : l.fraction with
    | none => simp [hf] at hc
    | some ds =>
        simp only [hf, Option.map_some, Option.getD_some, List.mem_cons] at hc
        rcases hc with rfl | hc
        · exact .inr (by decide)
        · exact .inl ((h.fraction ds hf).2 c hc)
  · cases he : l.exponent with
    | none => simp [he] at hc
    | some e =>
        simp only [he, Option.map_some, Option.getD_some, List.mem_cons] at hc
        rcases hc with rfl | rfl | hc
        · exact .inr (by decide)
        · split <;> exact .inr (by decide)
        · exact .inl ((h.exponent e he).2 c hc)

theorem Number.mem_text {n : Number} {c : Char} (h : c ∈ n.text) :
    Parser.isDigit c = true ∨ c ∈ ['-', '+', '.', 'e'] := by
  cases n with
  | integer i =>
      rw [text] at h
      rcases List.mem_append.1 h with h | h
      · split at h
        · rw [List.mem_singleton.1 h]
          exact .inr (by decide)
        · cases h
      · exact .inl (Parser.isDigit_of_mem_text h)
  | double x =>
      obtain ⟨l, hl, ht⟩ := exists_literal x
      exact Literal.mem_text hl.1 (ht ▸ h)

mutual

def Value.texts : Value → List String
  | .string s => [s]
  | .array vs => Value.textsOf vs
  | .object ms => Value.memberTexts ms
  | .null | .bool _ | .number _ => []

def Value.textsOf : List Value → List String
  | [] => []
  | v :: vs => v.texts ++ Value.textsOf vs

def Value.memberTexts : List (String × Value) → List String
  | [] => []
  | (k, v) :: ms => k :: (v.texts ++ Value.memberTexts ms)

end

open ChatTurn.Literal (Nesting Closed Takes marks outside within closed_of_plain closed_of_parse?
  takes_open takes_opening takes_closing takes_comma takes_quoted takes_escaped)

/-- A stretch of written text with the strings in it, and the number of brackets that are open
before it and after it. -/
inductive Strand : Nat → List Char → List String → Nat → Prop
  | plain {d : Nat} {w : List Char} (h : ∀ c ∈ w, c ∉ '<' :: marks) : Strand d w [] d
  | opening {d : Nat} {c : Char} (h : c ∈ ['[', '\x7b']) : Strand d [c] [] (d + 1)
  | closing {d : Nat} {c : Char} (h : c ∈ [']', '\x7d']) : Strand (d + 1) [c] [] d
  | comma {d : Nat} : Strand (d + 1) [','] [] (d + 1)
  | string {d : Nat} (s : String) : Strand d (Writer.string s) [s] d
  | append {d d' d'' : Nat} {w w' : List Char} {ss ss' : List String} (h : Strand d w ss d')
    (h' : Strand d' w' ss' d'') : Strand d (w ++ w') (ss ++ ss') d''

theorem Strand.of_all {d : Nat} {w : List Char}
    (h : w.all (!('<' :: marks).contains ·) = true) : Strand d w [] d := by
  refine .plain fun c hc hm => ?_
  have hn := List.all_eq_true.1 h c hc
  rw [List.contains_iff_mem.2 hm] at hn
  cases hn

theorem Strand.number (d : Nat) (n : Number) : Strand d n.text [] d := by
  refine .plain fun c hc hm => ?_
  rcases Number.mem_text hc with hdigit | hsign
  · have hall : ('<' :: marks).all (!Parser.isDigit ·) = true := rfl
    have hn := List.all_eq_true.1 hall c hm
    rw [hdigit] at hn
    cases hn
  · have hall : ['-', '+', '.', 'e'].all (!('<' :: marks).contains ·) = true := rfl
    have hn := List.all_eq_true.1 hall c hsign
    rw [List.contains_iff_mem.2 hm] at hn
    cases hn

mutual

theorem Value.strand : (v : Value) → ∀ d, Strand d v.write v.texts d
  | .null, _ => .of_all rfl
  | .bool true, _ => .of_all rfl
  | .bool false, _ => .of_all rfl
  | .number n, d => .number d n
  | .string s, _ => .string s
  | .array [], _ => (Strand.opening (by decide)).append (.closing (by decide))
  | .array (v :: vs), d =>
    (Strand.opening (by decide)).append ((v.strand (d + 1)).append (Value.strand_items vs d))
  | .object [], _ => (Strand.opening (by decide)).append (.closing (by decide))
  | .object ((k, v) :: ms), d => by
    have hcolon : Strand (d + 1) [':'] [] (d + 1) := .of_all rfl
    exact (Strand.opening (by decide)).append ((Strand.string k).append
      (hcolon.append ((v.strand (d + 1)).append (Value.strand_members ms d))))

theorem Value.strand_items :
    (vs : List Value) → ∀ d, Strand (d + 1) (Value.writeItems vs) (Value.textsOf vs) d
  | [], _ => .closing (by decide)
  | v :: vs, d =>
    Strand.comma.append ((v.strand (d + 1)).append (Value.strand_items vs d))

theorem Value.strand_members : (ms : List (String × Value)) →
    ∀ d, Strand (d + 1) (Value.writeMembers ms) (Value.memberTexts ms) d
  | [], _ => .closing (by decide)
  | (k, v) :: ms, d => by
    have hcolon : Strand (d + 1) [':'] [] (d + 1) := .of_all rfl
    exact Strand.comma.append ((Strand.string k).append
      (hcolon.append ((v.strand (d + 1)).append (Value.strand_members ms d))))

end

namespace Writer

theorem escape_shape (c : Char) : (escape c = [c] ∧ c ≠ '"' ∧ c ≠ '\\') ∨
    ∃ e t, escape c = '\\' :: e :: t ∧ '<' ∉ '\\' :: e :: t ∧ ∀ x ∈ t, x ≠ '\\' ∧ x ≠ '"' := by
  have hdigit : ∀ n < 16, hexDigit n ≠ '<' ∧ hexDigit n ≠ '\\' ∧ hexDigit n ≠ '"' := by decide
  rcases escape_cases c with ⟨e, he, hc, -⟩ | ⟨hc, he⟩ | ⟨he, hq, hb, -⟩
  · have hne : '<' ≠ e := by
      rintro rfl
      cases hc
    exact .inr ⟨e, [], he, by simp [hne], List.forall_mem_nil _⟩
  · have hhigh := hdigit (c.toNat / 16) (by omega)
    have hlow := hdigit (c.toNat % 16) (by omega)
    exact .inr ⟨'u', _, he, by simp [hhigh.1.symm, hlow.1.symm], by simp [hhigh, hlow]⟩
  · exact .inl ⟨he, hq, hb⟩

theorem isPrefix_flatMap_escape_iff {pat : List Char} (h : ∀ c ∈ pat, escape c = [c])
    (cs : List Char) : pat <+: cs.flatMap escape ↔ pat <+: cs := by
  induction pat generalizing cs with
  | nil => simp
  | cons p pat ih =>
      obtain ⟨hp, h⟩ := List.forall_mem_cons.1 h
      cases cs with
      | nil => simp
      | cons c cs =>
          rw [List.flatMap_cons]
          rcases escape_shape c with ⟨hc, -, -⟩ | ⟨e, t, hc, -, -⟩
          · rw [hc, List.singleton_append, List.cons_prefix_cons, List.cons_prefix_cons, ih h]
          · rw [hc, List.cons_append, List.cons_prefix_cons, List.cons_prefix_cons]
            constructor
            · rintro ⟨rfl, -⟩
              cases hp
            · rintro ⟨rfl, -⟩
              rw [hc] at hp
              cases hp

theorem isInfix_flatMap_escape_iff {pat : List Char} (h : ∀ c ∈ '<' :: pat, escape c = [c])
    (cs : List Char) : '<' :: pat <:+: cs.flatMap escape ↔ '<' :: pat <:+: cs := by
  induction cs with
  | nil => rfl
  | cons c cs ih =>
      have hprefix := isPrefix_flatMap_escape_iff h (c :: cs)
      rw [List.flatMap_cons] at hprefix ⊢
      rcases escape_shape c with ⟨hc, -, -⟩ | ⟨e, t, hc, hnot, -⟩
      · rw [hc, List.singleton_append] at hprefix ⊢
        rw [List.infix_cons_iff, List.infix_cons_iff, hprefix, ih]
      · have hne : ¬ '<' :: pat <+: c :: cs := by
          intro hp
          obtain ⟨rfl, -⟩ := List.cons_prefix_cons.1 hp
          cases hc
        rw [hc, Text.isInfix_append_iff_of_not_mem hnot, ih, List.infix_cons_iff]
        exact (or_iff_right hne).symm

end Writer

namespace Strand

variable {d d' : Nat} {w : List Char} {ss : List String}

theorem takes (h : Strand d w ss d') : Takes (outside d) w (outside d') := by
  induction h with
  | plain h =>
      exact closed_of_plain (fun c hc hm => h c hc (List.mem_cons_of_mem _ hm)) _
  | opening h => exact takes_opening (List.mem_cons_of_mem _ h)
  | closing h => exact takes_closing (List.mem_cons_of_mem _ h)
  | comma => exact takes_comma
  | string s => exact closed_of_parse? (parse?_write (.string s)) _
  | append _ _ ih ih' => exact ih.append ih'

theorem not_mem_bracket {c : Char} (h : c ∈ ['[', '\x7b'] ++ [']', '\x7d']) : '<' ∉ [c] := by
  intro hm
  rw [← List.mem_singleton.1 hm] at h
  exact absurd h (by decide)

def Shows (pat : List Char) (w : List Char) (ss : List String) : Prop :=
  ∀ rest, pat <:+: w ++ rest ↔ (∃ s ∈ ss, pat <:+: s.toList) ∨ pat <:+: rest

theorem shows_of_not_mem {pat : List Char} (h : '<' ∉ w) : Shows ('<' :: pat) w [] := by
  intro rest
  rw [Text.isInfix_append_iff_of_not_mem h]
  simp

theorem shows_string {pat : List Char} (h : ∀ c ∈ '<' :: pat, Writer.escape c = [c]) (s : String) :
    Shows ('<' :: pat) (Writer.string s) [s] := by
  intro rest
  have hquote : '"' ∉ '<' :: pat := fun hm => absurd (h _ hm) (by decide)
  have htext : Writer.string s ++ rest =
      ['"'] ++ (s.toList.flatMap Writer.escape ++ '"' :: rest) := by
    simp [Writer.string]
  rw [htext, Text.isInfix_append_iff_of_not_mem (by decide),
    Text.isInfix_append_cons_iff (List.cons_ne_nil _ _) hquote,
    Writer.isInfix_flatMap_escape_iff h]
  simp

/-- What begins with `<` and needs no escape is found in the strings and nowhere else. -/
theorem shows {pat : List Char} (hp : ∀ c ∈ '<' :: pat, Writer.escape c = [c])
    (h : Strand d w ss d') : Shows ('<' :: pat) w ss := by
  induction h with
  | plain h => exact shows_of_not_mem fun hm => h _ hm List.mem_cons_self
  | opening h => exact shows_of_not_mem (not_mem_bracket (List.mem_append_left _ h))
  | closing h => exact shows_of_not_mem (not_mem_bracket (List.mem_append_right _ h))
  | comma => exact shows_of_not_mem (by decide)
  | string s => exact shows_string hp s
  | append _ _ ih ih' =>
      intro rest
      rw [List.append_assoc, ih, ih', ← or_assoc]
      simp only [List.mem_append, or_and_right, exists_or]

def Quotes (s : Nesting) (w : List Char) : Prop :=
  ∀ a b, w = a ++ '<' :: b → ∃ d, Takes s a (within '"' d)

theorem quotes_of_not_mem {s : Nesting} (h : '<' ∉ w) : Quotes s w := by
  rintro a b rfl
  exact absurd (List.mem_append_right a List.mem_cons_self) h

theorem Quotes.append {s s' : Nesting} {w' : List Char} (h : Quotes s w)
    (ht : Takes s w s') (h' : Quotes s' w') : Quotes s (w ++ w') := by
  intro a b he
  rcases List.append_eq_append_iff.1 he with ⟨c, rfl, hw'⟩ | ⟨c, hw, hb⟩
  · obtain ⟨d, hd⟩ := h' c b hw'
    exact ⟨d, ht.append hd⟩
  · cases c with
    | nil =>
        rw [List.append_nil] at hw
        obtain ⟨d, hd⟩ := h' [] b hb.symm
        have ha := ht.append hd
        rw [List.append_nil, hw] at ha
        exact ⟨d, ha⟩
    | cons x c =>
        obtain ⟨rfl, rfl⟩ := List.cons.inj hb
        exact h a c hw

theorem takes_escape (c : Char) (d : Nat) :
    Takes (within '"' d) (Writer.escape c) (within '"' d) := by
  rcases Writer.escape_shape c with ⟨hc, hq, hb⟩ | ⟨e, t, hc, -, ht⟩
  · rw [hc]
    exact takes_quoted hb hq
  · have htail : Takes (within '"' d) t (within '"' d) := by
      clear hc
      induction t with
      | nil => exact .nil
      | cons x t ih =>
          obtain ⟨hx, ht⟩ := List.forall_mem_cons.1 ht
          exact Takes.append (takes_quoted hx.1 hx.2) (ih ht)
    rw [hc]
    exact Takes.append (takes_escaped e) htail

theorem quotes_escape (c : Char) (d : Nat) : Quotes (within '"' d) (Writer.escape c) := by
  rcases Writer.escape_shape c with ⟨hc, -⟩ | ⟨e, t, hc, hnot, -⟩
  · rw [hc]
    intro a b he
    cases a with
    | nil => exact ⟨d, .nil⟩
    | cons x a => simp at he
  · rw [hc]
    exact quotes_of_not_mem hnot

theorem quotes_flatMap_escape (cs : List Char) (d : Nat) :
    Takes (within '"' d) (cs.flatMap Writer.escape) (within '"' d) ∧
      Quotes (within '"' d) (cs.flatMap Writer.escape) := by
  induction cs with
  | nil => exact ⟨.nil, quotes_of_not_mem List.not_mem_nil⟩
  | cons c cs ih =>
      rw [List.flatMap_cons]
      exact ⟨(takes_escape c d).append ih.1, (quotes_escape c d).append (takes_escape c d) ih.2⟩

theorem quotes (h : Strand d w ss d') : Quotes (outside d) w := by
  induction h with
  | plain h => exact quotes_of_not_mem fun hm => h _ hm List.mem_cons_self
  | opening h => exact quotes_of_not_mem (not_mem_bracket (List.mem_append_left _ h))
  | closing h => exact quotes_of_not_mem (not_mem_bracket (List.mem_append_right _ h))
  | comma => exact quotes_of_not_mem (by decide)
  | @string d s =>
      obtain ⟨ht, hq⟩ := quotes_flatMap_escape s.toList d
      have hopen : Takes (outside d) ['"'] (within '"' d) := takes_open (.inl rfl)
      exact (quotes_of_not_mem (w := ['"']) (by decide)).append hopen
        (hq.append ht (quotes_of_not_mem (by decide)))
  | append h _ ih ih' => exact ih.append h.takes ih'

end Strand

theorem not_closed_of_within {cs : List Char} {q : Char} {d : Nat}
    (h : Takes (outside 0) cs (within q d)) : ¬ Closed cs := by
  intro hc
  have he := (h "" []).symm.trans (hc 0 "" [])
  cases he

theorem closed_of_isWhite {cs : List Char} (h : ∀ c ∈ cs, isWhite c = true) :
    Closed cs := by
  refine closed_of_plain fun c hc hm => ?_
  have hall : marks.all (!isWhite ·) = true := rfl
  have hn := List.all_eq_true.1 hall c hm
  rw [h c hc] at hn
  cases hn

/-- Text that is cut before a `<` is cut within a string, and cannot be read. -/
theorem parse?_of_cut {v : Value} {a b : List Char} (h : v.write = a ++ '<' :: b) :
    parse? (Text.trim a) = none := by
  cases hp : parse? (Text.trim a) with
  | none => rfl
  | some n =>
      obtain ⟨d, hd⟩ := (v.strand 0).quotes a b h
      obtain ⟨before, after, ha, hbefore, hafter⟩ := Text.exists_eq_append_trim a
      have hc := (closed_of_isWhite hbefore).append
        ((closed_of_parse? hp).append (closed_of_isWhite hafter))
      rw [← ha] at hc
      exact absurd hc (not_closed_of_within hd)

end Json

end ChatTurn
