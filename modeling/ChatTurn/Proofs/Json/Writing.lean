import ChatTurn.Proofs.Json.Double
import ChatTurn.Proofs.Json.Locality

namespace ChatTurn.Json

namespace Writer

theorem hexUnit?_control :
    ∀ n < 32, Parser.hexUnit? '0' '0' (hexDigit (n / 16)) (hexDigit (n % 16)) = some n := by
  decide

theorem characters?_unit {n : Nat} (h : n < 32) (ps : List Parser.Piece) :
    Parser.characters? (.unit n :: ps) = (Parser.characters? ps).map (Char.ofNat n :: ·) := by
  have hhigh : Parser.isHigh n = false := decide_eq_false (by omega)
  have hlow : Parser.isLow n = false := decide_eq_false (by omega)
  cases ps with
  | nil => simp [Parser.characters?, hhigh, hlow]
  | cons p ps => cases p <;> simp [Parser.characters?, hhigh, hlow]

theorem escape_cases (c : Char) :
    (∃ e, escape c = ['\\', e] ∧ Parser.escape? e = some c ∧ e ≠ 'u') ∨
    (c.toNat < 32 ∧ escape c =
      ['\\', 'u', '0', '0', hexDigit (c.toNat / 16), hexDigit (c.toNat % 16)]) ∨
    (escape c = [c] ∧ c ≠ '"' ∧ c ≠ '\\' ∧ ¬ c.toNat < 32) := by
  have hletter : ∀ {d} e, c = d → escape d = ['\\', e] → Parser.escape? e = some d → e ≠ 'u' →
      ∃ e, escape c = ['\\', e] ∧ Parser.escape? e = some c ∧ e ≠ 'u' := by
    rintro d e rfl hc he hu
    exact ⟨e, hc, he, hu⟩
  by_cases hq : c = '"'
  · exact .inl (hletter '"' hq rfl rfl (by decide))
  by_cases hb : c = '\\'
  · exact .inl (hletter '\\' hb rfl rfl (by decide))
  by_cases h8 : c = '\x08'
  · exact .inl (hletter 'b' h8 rfl rfl (by decide))
  by_cases hf : c = '\x0c'
  · exact .inl (hletter 'f' hf rfl rfl (by decide))
  by_cases hn : c = '\n'
  · exact .inl (hletter 'n' hn rfl rfl (by decide))
  by_cases hr : c = '\r'
  · exact .inl (hletter 'r' hr rfl rfl (by decide))
  by_cases ht : c = '\t'
  · exact .inl (hletter 't' ht rfl rfl (by decide))
  rw [escape, if_neg hq, if_neg hb, if_neg h8, if_neg hf, if_neg hn, if_neg hr, if_neg ht]
  by_cases hc : c.toNat < 0x20
  · exact .inr (.inl ⟨hc, if_pos hc⟩)
  · exact .inr (.inr ⟨if_neg hc, hq, hb, hc⟩)

/-- What a character is written as is read as one piece, which is that character again. -/
theorem pieces_escape (c : Char) : ∃ p, (∀ rest, Parser.pieces (escape c ++ rest) =
      (Parser.pieces rest).map fun q => (p :: q.1, q.2)) ∧
    ∀ ps, Parser.characters? (p :: ps) = (Parser.characters? ps).map (c :: ·) := by
  rcases escape_cases c with ⟨e, he, hc, hu⟩ | ⟨hc, he⟩ | ⟨he, hq, hb, hc⟩
  · rw [he]
    exact ⟨.char c, Parser.pieces_letter hc hu, fun _ => rfl⟩
  · rw [he]
    refine ⟨.unit c.toNat, Parser.pieces_unit (hexUnit?_control _ hc), fun ps => ?_⟩
    rw [characters?_unit hc, Char.ofNat_toNat]
  · rw [he]
    exact ⟨.char c, Parser.pieces_plain hq hb hc, fun _ => rfl⟩

theorem pieces_flatMap (cs rest : List Char) :
    ∃ ps, Parser.pieces (cs.flatMap escape ++ '"' :: rest) = some (ps, rest) ∧
      Parser.characters? ps = some cs := by
  induction cs with
  | nil => exact ⟨[], rfl, rfl⟩
  | cons c cs ih =>
      obtain ⟨ps, hps, hcs⟩ := ih
      obtain ⟨p, hp, hc⟩ := pieces_escape c
      refine ⟨p :: ps, ?_, ?_⟩
      · rw [List.flatMap_cons, List.append_assoc, hp, hps]
        rfl
      · rw [hc, hcs]
        rfl

theorem string_append (s : String) (rest : List Char) :
    ∃ t, string s ++ rest = '"' :: t ∧ Parser.string t = some (some s, rest) := by
  obtain ⟨ps, hps, hcs⟩ := pieces_flatMap s.toList rest
  refine ⟨s.toList.flatMap escape ++ '"' :: rest, ?_, ?_⟩
  · rw [string, List.cons_append, List.append_assoc]
    rfl
  · rw [Parser.string, hps]
    simp only [bind, Option.bind, hcs, Option.map_some, String.ofList_toList]

end Writer

mutual

/-- The tree of the text that a value is written as. -/
def Value.node : Value → Node
  | .null => .null
  | .bool b => .bool b
  | .number n => .number n.literal
  | .string s => .string (some s)
  | .array vs => .array (Value.nodes vs)
  | .object ms => .object (Value.memberNodes ms)

def Value.nodes : List Value → List Node
  | [] => []
  | v :: vs => v.node :: Value.nodes vs

def Value.memberNodes : List (String × Value) → List (Option String × Node)
  | [] => []
  | (k, v) :: ms => (some k, v.node) :: Value.memberNodes ms

end

mutual

def Value.doubles : Value → List Double
  | .number (.double x) => [x]
  | .array vs => Value.doublesOf vs
  | .object ms => Value.memberDoubles ms
  | .null | .bool _ | .number (.integer _) | .string _ => []

def Value.doublesOf : List Value → List Double
  | [] => []
  | v :: vs => v.doubles ++ Value.doublesOf vs

def Value.memberDoubles : List (String × Value) → List Double
  | [] => []
  | (_, v) :: ms => v.doubles ++ Value.memberDoubles ms

end

/-- Every double of the value is read from the text that it is written as. -/
def Value.IsExact (v : Value) : Prop := ∀ x ∈ v.doubles, x.ReadsBack

theorem Value.isExact_array {vs : List Value} :
    (Value.array vs).IsExact ↔ ∀ v ∈ vs, v.IsExact := by
  rw [IsExact, doubles]
  induction vs with
  | nil => simp [doublesOf]
  | cons v vs ih => simp only [doublesOf, List.forall_mem_append, ih, List.forall_mem_cons, IsExact]

theorem Value.isExact_object {ms : List (String × Value)} :
    (Value.object ms).IsExact ↔ ∀ m ∈ ms, m.2.IsExact := by
  rw [IsExact, doubles]
  induction ms with
  | nil => simp [memberDoubles]
  | cons m ms ih =>
      simp only [memberDoubles, List.forall_mem_append, ih, List.forall_mem_cons, IsExact]

theorem Value.write_ne_nil (v : Value) : v.write ≠ [] := by
  cases v with
  | null => exact List.cons_ne_nil _ _
  | bool b => cases b <;> exact List.cons_ne_nil _ _
  | number n =>
      obtain ⟨c, t, hc, -⟩ := Parser.head_of_number (number_literal n)
      exact ne_of_eq_of_ne hc (List.cons_ne_nil c t)
  | string s => exact List.cons_ne_nil _ _
  | array vs => cases vs <;> exact List.cons_ne_nil _ _
  | object ms => cases ms <;> exact List.cons_ne_nil _ _

theorem Value.length_write_pos (v : Value) : 0 < v.write.length :=
  List.length_pos_iff.2 v.write_ne_nil

theorem stops_writeItems (vs : List Value) (rest : List Char) :
    Parser.Stops (Value.writeItems vs ++ rest) := by
  cases vs <;> exact Parser.stops_cons (by decide)

theorem stops_writeMembers (ms : List (String × Value)) (rest : List Char) :
    Parser.Stops (Value.writeMembers ms ++ rest) := by
  cases ms <;> exact Parser.stops_cons (by decide)

namespace Parser

variable {f : Nat} {cs rest rest' : List Char} {n : Node} {ns : List Node}
  {ms : List (Option String × Node)}

theorem items_last (h : value f cs = some (n, ']' :: rest)) :
    items (f + 1) cs = some ([n], rest) := by
  rw [items, h]
  rfl

theorem items_more (h : value f cs = some (n, ',' :: rest)) (hs : items f rest = some (ns, rest')) :
    items (f + 1) cs = some (n :: ns, rest') := by
  rw [items, h]
  simp only [skip_cons (show isBlank ',' = false from rfl), hs, Option.map_some]

theorem members_last (k : String) (h : value f cs = some (n, '\x7d' :: rest)) :
    members (f + 1) (Writer.string k ++ ':' :: cs) = some ([(some k, n)], rest) := by
  obtain ⟨t, ht, hk⟩ := Writer.string_append k (':' :: cs)
  rw [ht, members, skip_cons rfl]
  simp only [hk, skip_cons (show isBlank ':' = false from rfl), h,
    skip_cons (show isBlank '\x7d' = false from rfl)]

theorem members_more (k : String) (h : value f cs = some (n, ',' :: rest))
    (hs : members f rest = some (ms, rest')) :
    members (f + 1) (Writer.string k ++ ':' :: cs) = some ((some k, n) :: ms, rest') := by
  obtain ⟨t, ht, hk⟩ := Writer.string_append k (':' :: cs)
  rw [ht, members, skip_cons rfl]
  simp only [hk, skip_cons (show isBlank ':' = false from rfl), h,
    skip_cons (show isBlank ',' = false from rfl), hs, Option.map_some]

end Parser

mutual

/-- Each character of the text allows two steps down, which is more than are taken. -/
theorem Value.value_write : (v : Value) → ∀ {f : Nat} {rest : List Char},
    2 * v.write.length ≤ f + 1 → Parser.Stops rest →
      Parser.value (f + 1) (v.write ++ rest) = some (v.node, rest)
  | .null, _, _, _, _ => rfl
  | .bool b, _, _, _, _ => by cases b <;> rfl
  | .number n, f, _, _, hr =>
      Parser.value_number (Parser.number_append (number_literal n) hr) f
  | .string s, _, rest, _, _ => by
      obtain ⟨t, ht, hs⟩ := Writer.string_append s rest
      rw [Value.write, ht, Parser.value, Parser.skip_cons rfl]
      simp only [hs, Option.map_some, Value.node]
  | .array [], _, _, _, _ => rfl
  | .array (v :: vs), f, rest, hf, _ => by
      simp only [Value.write, List.length_cons, List.length_append] at hf
      have hpos := v.length_write_pos
      obtain ⟨g, rfl⟩ : ∃ g, f = g + 2 := ⟨f - 2, by omega⟩
      rw [Value.write, List.cons_append, List.append_assoc]
      refine Parser.value_array ?_
      exact Value.items_write vs (by omega)
        (Value.value_write v (by omega) (stops_writeItems vs rest))
  | .object [], _, _, _, _ => rfl
  | .object ((k, v) :: ms), f, rest, hf, _ => by
      simp only [Value.write, List.length_cons, List.length_append] at hf
      have hpos := v.length_write_pos
      obtain ⟨g, rfl⟩ : ∃ g, f = g + 2 := ⟨f - 2, by omega⟩
      rw [Value.write, List.cons_append, List.append_assoc, List.cons_append, List.append_assoc]
      refine Parser.value_object ?_
      exact Value.members_write ms k (by omega)
        (Value.value_write v (by omega) (stops_writeMembers ms rest))

theorem Value.items_write : (vs : List Value) →
    ∀ {f : Nat} {cs rest : List Char} {n : Node}, 2 * (Value.writeItems vs).length ≤ f + 1 →
      Parser.value f cs = some (n, Value.writeItems vs ++ rest) →
      Parser.items (f + 1) cs = some (n :: Value.nodes vs, rest)
  | [], _, _, _, _, _, hv => Parser.items_last hv
  | v :: vs, f, cs, rest, n, hf, hv => by
      simp only [Value.writeItems, List.length_cons, List.length_append] at hf
      have hpos := v.length_write_pos
      obtain ⟨g, rfl⟩ : ∃ g, f = g + 2 := ⟨f - 2, by omega⟩
      rw [Value.writeItems, List.cons_append, List.append_assoc] at hv
      exact Parser.items_more hv (Value.items_write vs (by omega)
        (Value.value_write v (by omega) (stops_writeItems vs rest)))

theorem Value.members_write : (ms : List (String × Value)) →
    ∀ {f : Nat} {cs rest : List Char} {n : Node} (k : String),
      2 * (Value.writeMembers ms).length ≤ f + 1 →
      Parser.value f cs = some (n, Value.writeMembers ms ++ rest) →
      Parser.members (f + 1) (Writer.string k ++ ':' :: cs) =
        some ((some k, n) :: Value.memberNodes ms, rest)
  | [], _, _, _, _, k, _, hv => Parser.members_last k hv
  | (k', v) :: ms, f, cs, rest, n, k, hf, hv => by
      simp only [Value.writeMembers, List.length_cons, List.length_append] at hf
      have hpos := v.length_write_pos
      obtain ⟨g, rfl⟩ : ∃ g, f = g + 2 := ⟨f - 2, by omega⟩
      rw [Value.writeMembers, List.cons_append, List.append_assoc, List.cons_append,
        List.append_assoc] at hv
      exact Parser.members_more k hv (Value.members_write ms k' (by omega)
        (Value.value_write v (by omega) (stops_writeMembers ms rest)))

end

theorem parse?_write (v : Value) : parse? v.write = some v.node := by
  have hv := v.value_write (f := 2 * v.write.length + 1) (by omega) Parser.stops_nil
  rw [List.append_nil] at hv
  rw [parse?, hv]
  rfl

end ChatTurn.Json
