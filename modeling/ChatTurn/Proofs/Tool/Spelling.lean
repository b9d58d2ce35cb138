import ChatTurn.Proofs.Remote.RoundTrip
import ChatTurn.Proofs.Tool.JsonText

namespace ChatTurn

/-- The arguments that a call expression has a text for. A float has one within a map. -/
inductive Argument.Expressible : Argument → Prop
  | null : Expressible null
  | bool (b : Bool) : Expressible (bool b)
  | integer (n : Int64) : Expressible (integer n)
  | string (s : String) : Expressible (string s)
  | list {items : List Argument} (h : ∀ a ∈ items, Expressible a) : Expressible (list items)
  | map {entries : List (String × Argument)} (h : (map entries).Fits 0) : Expressible (map entries)

namespace Literal

def quoted (q c : Char) : List Char := if c = q ∨ c = '\\' then ['\\', c] else [c]

inductive Spells : Argument → List Char → Prop
  | null {t : List Char} (h : t = "None".toList ∨ t = "null".toList) : Spells .null t
  | bool (b : Bool) {t : List Char} (h : t = (if b then "True" else "False").toList ∨
      t = (if b then "true" else "false").toList) : Spells (.bool b) t
  | integer (n : Int64) : Spells (.integer n) (Json.Number.integer n.toInt).text
  | string {q : Char} (hq : IsQuote q) (s : String) :
      Spells (.string s) (q :: (s.toList.flatMap (quoted q) ++ [q]))
  | list {ps : List (Argument × List Char)} (h : ∀ p ∈ ps, Spells p.1 p.2) :
      Spells (.list (ps.map Prod.fst)) ('[' :: (joined (ps.map Prod.snd) ++ [']']))
  /-- Any text of a JSON object will do; `spells_write` gives one. -/
  | map {ms : List (String × Json.Value)} {t : List Char}
      (h : Json.parseValue? t = some (.object ms)) (ho : t.head? = some '\x7b')
      (hc : t.getLast? = some '\x7d') : Spells (.map (Argument.ofMembers ms)) t

theorem spells_write {es : List (String × Argument)} (h : (Argument.map es).Fits 0) :
    Spells (.map es) (Argument.map es).toValue.write := by
  have hs : Spells (.map (Argument.ofMembers (Argument.toMembers es)))
      (Argument.map es).toValue.write :=
    .map h.parseValue? (Json.Value.head?_write_object _) (Json.Value.getLast?_write_object _)
  rwa [Argument.map.inj h.stays.2] at hs

theorem exists_pairs {α β : Type} {R : α → β → Prop} {as : List α} (h : ∀ a ∈ as, ∃ b, R a b) :
    ∃ ps : List (α × β), ps.map Prod.fst = as ∧ ∀ p ∈ ps, R p.1 p.2 := by
  induction as with
  | nil => exact ⟨[], rfl, List.forall_mem_nil _⟩
  | cons a as ih =>
      obtain ⟨⟨b, hb⟩, h⟩ := List.forall_mem_cons.1 h
      obtain ⟨ps, hps, hall⟩ := ih h
      exact ⟨(a, b) :: ps, congrArg (a :: ·) hps, List.forall_mem_cons.2 ⟨hb, hall⟩⟩

theorem exists_spells {a : Argument} (h : a.Expressible) : ∃ t, Spells a t := by
  induction h with
  | null => exact ⟨_, .null (.inl rfl)⟩
  | bool b => exact ⟨_, .bool b (.inl rfl)⟩
  | integer n => exact ⟨_, .integer n⟩
  | string s => exact ⟨_, .string (.inl rfl) s⟩
  | list _ ih =>
      obtain ⟨ps, rfl, hps⟩ := exists_pairs ih
      exact ⟨_, .list hps⟩
  | map h => exact ⟨_, spells_write h⟩

variable {a : Argument} {t : List Char} {q : Char} {d : Nat}

theorem takes_flatMap_quoted (q : Char) (d : Nat) (cs : List Char) :
    Takes (within q d) (cs.flatMap (quoted q)) (within q d) := by
  induction cs with
  | nil => exact .nil
  | cons c cs ih =>
      rw [List.flatMap_cons]
      refine .append ?_ ih
      rw [quoted]
      by_cases h : c = q ∨ c = '\\'
      · rw [if_pos h]
        exact takes_escaped c
      · rw [if_neg h]
        exact takes_quoted (fun hb => h (.inr hb)) (fun hq => h (.inl hq))

theorem mem_text_integer {i : Int} {c : Char} (h : c ∈ (Json.Number.integer i).text) :
    c = '-' ∨ Json.Parser.isDigit c = true := by
  rw [Json.Number.text] at h
  rcases List.mem_append.1 h with h | h
  · split at h
    · exact .inl (List.mem_singleton.1 h)
    · cases h
  · exact .inr (Json.Parser.isDigit_of_mem_text h)

theorem text_integer_ne_nil (i : Int) : (Json.Number.integer i).text ≠ [] := by
  rw [Json.Number.text, ne_eq, List.append_eq_nil_iff]
  exact fun h => Json.Parser.text_ne_nil _ h.2

theorem isWhite_of_isDigit {c : Char} (h : Json.Parser.isDigit c = true) : isWhite c = false := by
  rw [Json.Parser.isDigit, decide_eq_true_iff, Char.le_def, Char.le_def, UInt32.le_iff_toNat_le,
    UInt32.le_iff_toNat_le] at h
  exact isWhite_of_visible ⟨Nat.lt_of_lt_of_le (by decide) h.1, Nat.lt_of_le_of_lt h.2 (by decide)⟩

theorem Spells.isTight (h : Spells a t) : Text.IsTight t := by
  cases h with
  | null h => rcases h with rfl | rfl <;> exact ⟨⟨_, rfl, rfl⟩, ⟨_, rfl, rfl⟩⟩
  | bool b h =>
      rcases h with rfl | rfl <;> cases b <;> exact ⟨⟨_, rfl, rfl⟩, ⟨_, rfl, rfl⟩⟩
  | integer n =>
      refine .of_forall (text_integer_ne_nil _) fun c hc => ?_
      rcases mem_text_integer hc with rfl | hc
      · rfl
      · exact isWhite_of_isDigit hc
  | @string q hq s =>
      have hquote : Text.IsTight [q] := .singleton (by rcases hq with rfl | rfl <;> rfl)
      exact hquote.around hquote _
  | list h =>
      have ho : Text.IsTight ['['] := .singleton rfl
      exact ho.around (.singleton rfl) _
  | map h ho hc => exact ⟨⟨_, ho, rfl⟩, ⟨_, hc, rfl⟩⟩

theorem Spells.closed (h : Spells a t) : Closed t := by
  induction h with
  | null h => rcases h with rfl | rfl <;> exact closed_of_all rfl
  | bool b h => rcases h with rfl | rfl <;> cases b <;> exact closed_of_all rfl
  | integer n =>
      refine closed_of_plain fun c hc => ?_
      rcases mem_text_integer hc with rfl | hc
      · decide
      · exact not_mem_marks_of_isDigit hc
  | string hq s =>
      intro d
      exact (takes_open hq).append ((takes_flatMap_quoted _ d s.toList).append (takes_close hq))
  | list h ih =>
      have hinner := inner_joined (List.forall_mem_map.2 ih)
      exact (hinner.closing (closing_singleton (by decide))).bracket (by decide)
  | map h ho hc =>
      obtain ⟨n, hn, -⟩ := Option.bind_eq_some_iff.1 h
      exact closed_of_parse? hn

theorem unquote_escaped (whole : String) (q c : Char) (cs : List Char) :
    unquote whole q ('\\' :: c :: cs) = (unquote whole q cs).map
      ((if c = 'n' then '\n' else if c = 't' then '\t' else c) :: ·) := rfl

theorem unquote_plain {c : Char} (hb : c ≠ '\\') (hq : c ≠ q) (whole : String) (cs : List Char) :
    unquote whole q (c :: cs) = (unquote whole q cs).map (c :: ·) := by
  rw [unquote.eq_def]
  split
  · next h => cases h
  · next h => exact absurd (List.cons.inj h).1 hb
  · next h => exact absurd (List.cons.inj h).1 hb
  · next h =>
      cases h
      rw [if_neg hq]

theorem unquote_quoted (whole : String) (hq : IsQuote q) (cs : List Char) :
    unquote whole q (cs.flatMap (quoted q) ++ [q]) = .ok cs := by
  induction cs with
  | nil => rcases hq with rfl | rfl <;> rfl
  | cons c cs ih =>
      rw [List.flatMap_cons, List.append_assoc, quoted]
      by_cases h : c = q ∨ c = '\\'
      · -- Neither a quote nor a backslash stands for another character.
        have hn : c ≠ 'n' ∧ c ≠ 't' := by
          rcases h with rfl | rfl
          · rcases hq with rfl | rfl <;> decide
          · decide
        rw [if_pos h, List.cons_append, List.cons_append, List.nil_append, unquote_escaped, ih,
          if_neg hn.1, if_neg hn.2]
        rfl
      · obtain ⟨hq, hb⟩ := not_or.1 h
        rw [if_neg h, List.cons_append, List.nil_append, unquote_plain hb hq, ih]
        rfl

theorem constant?_of_head {c : Char} {cs : List Char} (h : c ∉ ['T', 't', 'F', 'f', 'N', 'n']) :
    constant? (c :: cs) = none := by
  simp only [List.mem_cons, List.not_mem_nil, or_false, not_or] at h
  simp [constant?, h]

theorem listBody?_of_head {c : Char} {cs : List Char} (h : c ≠ '[') :
    listBody? (c :: cs) = none := by
  simp [listBody?, Text.stripStart?, h.symm]

theorem listBody?_brackets (cs : List Char) : listBody? ('[' :: (cs ++ [']'])) = some cs :=
  Text.stripEnd?_append [']'] cs

theorem digitsValue_text (n : Nat) : Double.digitsValue (Decimal.text n) = n := by
  have h : Double.digitsValue (Decimal.text n) = Nat.ofDigitChars 10 (Decimal.text n) 0 :=
    Nat.ofDigitChars_eq_foldl.symm
  rw [h, Decimal.text, Nat.toList_repr, Nat.ofDigitChars_ten_toDigits]

theorem integer?_text (i : Int) : integer? (Json.Number.integer i).text = some i := by
  have hdigits : (Decimal.text i.natAbs).all Double.isDigit = true :=
    List.all_eq_true.2 fun _ => Json.Parser.isDigit_of_mem_text
  have hsign : Double.takeSign (Json.Number.integer i).text =
      (decide (i < 0), Decimal.text i.natAbs) := by
    rw [Json.Number.text]
    by_cases hi : i < 0
    · simp [hi, Double.takeSign]
    · obtain ⟨c, cs, hc⟩ := List.exists_cons_of_ne_nil (Json.Parser.text_ne_nil i.natAbs)
      have hd : Json.Parser.isDigit c = true :=
        Json.Parser.isDigit_of_mem_text (hc ▸ List.mem_cons_self)
      have hne : c ≠ '-' ∧ c ≠ '+' := by
        constructor <;> (rintro rfl; cases hd)
      rw [hc]
      simp [hi, Double.takeSign, hne.1, hne.2]
  rw [integer?, hsign]
  simp only [hdigits, digitsValue_text, List.isEmpty_eq_false_iff.2 (Json.Parser.text_ne_nil _)]
  by_cases hi : i < 0
  · have habs : -(i.natAbs : Int) = i := by omega
    simp only [hi, decide_true, Bool.not_true, Bool.or_self, Bool.false_eq_true, if_false, if_true,
      habs]
  · have habs : (i.natAbs : Int) = i := by omega
    simp only [hi, decide_false, Bool.not_true, Bool.or_self, Bool.false_eq_true, if_false, habs]

theorem number?_text (n : Int64) :
    number? (Json.Number.integer n.toInt).text = some (.integer n) := by
  have hnumeric : (Json.Number.integer n.toInt).text.all isNumeric = true := by
    rw [List.all_eq_true]
    intro c hc
    rcases mem_text_integer hc with rfl | hc
    · rfl
    · have hd : Double.isDigit c = true := hc
      simp [isNumeric, hd]
  rw [number?, List.isEmpty_eq_false_iff.2 (text_integer_ne_nil _), hnumeric, integer?_text]
  simp [int64?_toInt]

theorem mapM_of_trim {ε α : Type} {f : List Char → Except ε α} {raws : List (List Char)}
    {ps : List (α × List Char)}
    (h : List.Forall₂ (fun raw t => Text.trim raw = t) raws (ps.map Prod.snd))
    (hf : ∀ p ∈ ps, ∀ raw, Text.trim raw = p.2 → f raw = .ok p.1) :
    raws.mapM f = .ok (ps.map Prod.fst) := by
  induction ps generalizing raws with
  | nil =>
      cases h
      rfl
  | cons p ps ih =>
      cases h with
      | @cons raw _ raws _ hr h =>
          obtain ⟨hp, hps⟩ := List.forall_mem_cons.1 hf
          rw [List.mapM_cons, hp raw hr, ih h hps]
          rfl

theorem length_le_joined {t : List Char} {ts : List (List Char)} (h : t ∈ ts) :
    t.length ≤ (joined ts).length := by
  induction ts with
  | nil => cases h
  | cons u us ih =>
      cases us with
      | nil =>
          cases List.mem_singleton.1 h
          simp [joined, List.intercalate]
      | cons v vs =>
          rw [joined_cons_cons]
          simp only [List.length_append]
          rcases List.mem_cons.1 h with rfl | h
          · omega
          · have := ih h
            omega

theorem value_list {fuel : Nat} {raw body : List Char}
    (hr : Text.trim raw = '[' :: (body ++ [']'])) : value (fuel + 1) raw = (do
      let items ← splitTopLevel body
      let values ← (items.filter (!Text.isBlank ·)).mapM (value fuel)
      .ok (.list values)) := by
  simp only [value, hr]
  rw [if_neg (by decide), constant?_of_head (by decide), listBody?_brackets]

/-- Whatever white space is around it, the text of an argument is read as the argument. -/
theorem Spells.value_eq {fuel : Nat} {raw : List Char} (h : Spells a t) (hr : Text.trim raw = t)
    (hf : t.length ≤ fuel) : Literal.value (fuel + 1) raw = .ok a := by
  induction h generalizing fuel raw with
  | null h =>
      rw [Literal.value, hr]
      rcases h with rfl | rfl <;> rfl
  | bool b h =>
      rw [Literal.value, hr]
      rcases h with rfl | rfl <;> cases b <;> rfl
  | integer n =>
      obtain ⟨c, cs, hc⟩ := List.exists_cons_of_ne_nil (text_integer_ne_nil n.toInt)
      have hn := number?_text n
      have hchar : c = '-' ∨ Json.Parser.isDigit c = true :=
        mem_text_integer (hc ▸ List.mem_cons_self)
      have hother : c ∉ ['"', '\'', '[', '\x7b', 'T', 't', 'F', 'f', 'N', 'n'] := by
        intro hm
        rcases hchar with rfl | hchar
        · exact absurd hm (by decide)
        · have hall : ['"', '\'', '[', '\x7b', 'T', 't', 'F', 'f', 'N', 'n'].all
              (!Json.Parser.isDigit ·) = true := rfl
          have hn := List.all_eq_true.1 hall c hm
          rw [hchar] at hn
          cases hn
      simp only [List.mem_cons, List.not_mem_nil, or_false, not_or] at hother
      obtain ⟨hq, hq', hlist, hmap, hconstant⟩ := hother
      rw [hc] at hr hn
      simp only [Literal.value, hr]
      rw [if_neg (by simp [hq, hq']), constant?_of_head (by simpa using hconstant),
        listBody?_of_head hlist, if_neg hmap, hn]
  | @string q hq s =>
      simp only [Literal.value, hr]
      rw [if_pos (by simpa [IsQuote] using hq), unquote_quoted _ hq]
      simp [Except.map]
  | @list ps h ih =>
      obtain ⟨raws, hsplit, htrim⟩ := exists_splitTopLevel
        (List.forall_mem_map.2 fun p hp => (h p hp).closed)
        (List.forall_mem_map.2 fun p hp => (h p hp).isTight)
      -- An item is shorter than its list by the brackets, so one less of fuel is enough for it.
      simp only [List.length_cons, List.length_append] at hf
      obtain ⟨g, rfl⟩ : ∃ g, fuel = g + 1 := ⟨fuel - 1, by omega⟩
      have hmap := mapM_of_trim (f := Literal.value (g + 1)) htrim fun p hp raw hraw =>
        ih p hp hraw (by
          have := length_le_joined (List.mem_map_of_mem (f := Prod.snd) hp)
          omega)
      rw [value_list hr, hsplit]
      simp only [bind, Except.bind, hmap]
  | @map ms t h ho hc =>
      obtain ⟨cs, rfl⟩ := List.head?_eq_some_iff.1 ho
      simp only [Literal.value, hr]
      rw [if_neg (by decide), constant?_of_head (by decide), listBody?_of_head (by decide)]
      simp only [h]
      rfl

end Literal

end ChatTurn
