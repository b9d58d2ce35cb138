import ChatTurn.Proofs.Toml.Difference
import ChatTurn.Proofs.Toml.Readers

namespace ChatTurn.Toml

/-- What stands between double quotes, and the text that it spells. -/
inductive Spells : List Char → List Char → Prop
  | nil : Spells [] []
  | plain {c : Char} {v text : List Char} (hq : c ≠ '"') (hb : c ≠ '\\') (h : Spells v text) :
      Spells (c :: v) (c :: text)
  | escape {c : Char} {e v text : List Char} (he : ∀ cs, Parser.escape? (e ++ cs) = some (c, cs))
      (h : Spells v text) : Spells ('\\' :: (e ++ v)) (c :: text)

theorem Spells.verbatim {v : List Char} (hq : '"' ∉ v) (hb : '\\' ∉ v) : Spells v v := by
  induction v with
  | nil => exact .nil
  | cons c v ih =>
      rw [List.mem_cons, not_or] at hq hb
      exact .plain (Ne.symm hq.1) (Ne.symm hb.1) (ih hq.2 hb.2)

namespace Parser

open Text (stripStart?)

inductive Spot
  | value (depth : Nat)
  | items (depth count : Nat)
  | pairs (depth : Nat) (entries : Entries)
  | document (header : List String) (entries : Entries)

/-- Before a double quote the reader passes over the text and is then due to read a value, and the
path leads to that value. -/
inductive Due : Spot → List Char → Path → Prop
  | here {d : Nat} : Due (.value d) [] []
  | array {d : Nat} {x : List Char} {path : Path} (h : Due (.items d 0) x path) :
      Due (.value (d + 1)) ('[' :: x) path
  | inline {d : Nat} {x : List Char} {path : Path} (h : Due (.pairs d []) x path) :
      Due (.value (d + 1)) ('\x7b' :: x) path
  | item {n d count : Nat} {x y : List Char} {path : Path}
      (hs : skipLines n (x ++ ['"']) = some (y ++ ['"'])) (h : Due (.value d) y path) :
      Due (.items d count) x (.index count :: path)
  | nextItem {n d count : Nat} {i : Item} {x y z w : List Char} {path : Path}
      (hs : skipLines n (x ++ ['"']) = some (y ++ ['"']))
      (hi : value n d (y ++ ['"']) = some (i, z ++ ['"']))
      (hc : skipLines n (z ++ ['"']) = some (',' :: w ++ ['"']))
      (h : Due (.items d (count + 1)) w path) : Due (.items d count) x path
  | pair {n d : Nat} {es : Entries} {ks : List String} {x y z : List Char} {path : Path}
      (hs : skipLines n (x ++ ['"']) = some (y ++ ['"']))
      (hk : key n (y ++ ['"']) = some (ks, '=' :: z ++ ['"']))
      (h : Due (.value d) (skipBlanks z) path) : Due (.pairs d es) x (es.place ks ++ path)
  | nextPair {n d : Nat} {es fs : Entries} {p : List String × Item} {x y z w : List Char} {path : Path}
      (hs : skipLines n (x ++ ['"']) = some (y ++ ['"']))
      (hp : Parser.pair n d (y ++ ['"']) = some (p, z ++ ['"']))
      (ha : addPair p.1 p.2 .inline es = some fs)
      (hc : skipLines n (z ++ ['"']) = some (',' :: w ++ ['"']))
      (h : Due (.pairs d fs) w path) : Due (.pairs d es) x path
  | line {n : Nat} {header : List String} {es : Entries} {ks : List String} {x y z : List Char}
      {path : Path} (hs : skipLines n (x ++ ['"']) = some (y ++ ['"']))
      (hk : key n (y ++ ['"']) = some (ks, '=' :: z ++ ['"']))
      (h : Due (.value deepest) (skipBlanks z) path) :
      Due (.document header es) x (es.place (header ++ ks) ++ path)
  | nextLine {n : Nat} {header header' : List String} {es fs : Entries} {x y z : List Char}
      {add : Entries → Option Entries} {path : Path}
      (hs : skipLines n (x ++ ['"']) = some (y ++ ['"']))
      (hl : Parser.line n header (y ++ ['"']) = some ((header', add), z ++ ['"']))
      (ha : add es = some fs) (h : Due (.document header' fs) z path) :
      Due (.document header es) x path

variable {n d : Nat} {s s' : String} {path : Path} {cs rest rest' post x y t t' : List Char}
  {es fs r r' : Entries}

theorem key_eq_none {c : Char} (h : c ∈ ['[', ']', '\x7b', '\x7d']) (n : Nat) (cs : List Char) :
    key n (c :: cs) = none := by
  cases n with
  | zero => rfl
  | succ n => fin_cases h <;> rfl

theorem pair_eq_none {c : Char} (h : c ∈ ['[', ']', '\x7b', '\x7d']) (n d : Nat) (cs : List Char) :
    pair n d (c :: cs) = none := by
  rw [pair, key_eq_none h]
  rfl

theorem line_nil (n : Nat) (header : List String) : line n header [] = none := by
  cases n <;> rfl

theorem value_bracket (n d : Nat) (cs : List Char) : value n d (']' :: cs) = none := by
  cases n with
  | zero => rfl
  | succ n =>
      rw [value_atom (by rintro ⟨⟩) (by rintro ⟨⟩)]
      rfl

theorem exists_of_items {is : List Item} (h : items n d cs = some (is, rest)) : ∃ m cs₁, n = m + 1 ∧
    skipLines m cs = some cs₁ ∧ (cs₁ = ']' :: rest ∧ is = [] ∨
      ∃ i cs₂ cs₃ js, value m d cs₁ = some (i, cs₂) ∧ skipLines m cs₂ = some cs₃ ∧
        itemsAfter m d cs₃ = some (js, rest) ∧ is = i :: js) := by
  cases n with
  | zero => cases h
  | succ n =>
      rw [items_succ, Option.bind_eq_some_iff] at h
      obtain ⟨cs₁, h₁, h⟩ := h
      refine ⟨n, cs₁, rfl, h₁, ?_⟩
      unfold itemsFrom at h
      split at h
      · cases h
        exact .inl ⟨rfl, rfl⟩
      · obtain ⟨⟨i, cs₂⟩, h₂, h⟩ := Option.bind_eq_some_iff.1 h
        obtain ⟨cs₃, h₃, h⟩ := Option.bind_eq_some_iff.1 h
        obtain ⟨⟨js, rest⟩, h₄, h⟩ := Option.map_eq_some_iff.1 h
        cases h
        exact .inr ⟨i, cs₂, cs₃, js, h₂, h₃, h₄, rfl⟩

theorem exists_of_pairs (h : pairs n d es cs = some (r, rest)) : ∃ m cs₁, n = m + 1 ∧
    skipLines m cs = some cs₁ ∧ (cs₁ = '\x7d' :: rest ∧ r = es ∨
      ∃ p cs₂ fs cs₃, pair m d cs₁ = some (p, cs₂) ∧ addPair p.1 p.2 .inline es = some fs ∧
        skipLines m cs₂ = some cs₃ ∧ pairsAfter m d fs cs₃ = some (r, rest)) := by
  cases n with
  | zero => cases h
  | succ n =>
      rw [pairs_succ, Option.bind_eq_some_iff] at h
      obtain ⟨cs₁, h₁, h⟩ := h
      refine ⟨n, cs₁, rfl, h₁, ?_⟩
      unfold pairsFrom at h
      split at h
      · cases h
        exact .inl ⟨rfl, rfl⟩
      · obtain ⟨⟨p, cs₂⟩, h₂, h⟩ := Option.bind_eq_some_iff.1 h
        obtain ⟨fs, h₃, h⟩ := Option.bind_eq_some_iff.1 h
        obtain ⟨cs₃, h₄, h⟩ := Option.bind_eq_some_iff.1 h
        exact .inr ⟨p, cs₂, fs, cs₃, h₂, h₃, h₄, h⟩

theorem exists_of_document {header : List String} (h : document n header es cs = some r) :
    ∃ m cs₁, n = m + 1 ∧ skipLines m cs = some cs₁ ∧ (cs₁ = [] ∧ r = es ∨
      ∃ header' add cs₂ fs, line m header cs₁ = some ((header', add), cs₂) ∧ add es = some fs ∧
        document m header' fs cs₂ = some r) := by
  cases n with
  | zero => cases h
  | succ n =>
      rw [document_succ, Option.bind_eq_some_iff] at h
      obtain ⟨cs₁, h₁, h⟩ := h
      refine ⟨n, cs₁, rfl, h₁, ?_⟩
      split at h
      · next hnil =>
          cases h
          exact .inl ⟨List.isEmpty_iff.1 hnil, rfl⟩
      · obtain ⟨⟨⟨header', add⟩, cs₂⟩, h₂, h⟩ := Option.bind_eq_some_iff.1 h
        obtain ⟨fs, h₃, h⟩ := Option.bind_eq_some_iff.1 h
        exact .inr ⟨header', add, cs₂, fs, h₂, h₃, h⟩

theorem pairsAfter_differ (hn : ∀ {es fs cs r rest r' rest'}, Entries.Differ s s' path es fs →
      pairs n d es cs = some (r, rest) → pairs n d fs cs = some (r', rest') →
      rest = rest' ∧ Entries.Differ s s' path r r')
    (h : Entries.Differ s s' path es fs) (hr : pairsAfter n d es cs = some (r, rest))
    (hr' : pairsAfter n d fs cs = some (r', rest')) : rest = rest' ∧ Entries.Differ s s' path r r' := by
  unfold pairsAfter at hr hr'
  split at hr
  · exact hn h hr hr'
  · cases hr
    cases hr'
    exact ⟨rfl, h⟩
  · cases hr

theorem pairs_differ (h : Entries.Differ s s' path es fs) (hr : pairs n d es cs = some (r, rest))
    (hr' : pairs n d fs cs = some (r', rest')) : rest = rest' ∧ Entries.Differ s s' path r r' := by
  induction n generalizing es fs cs r rest r' rest' with
  | zero => cases hr
  | succ n ih =>
      obtain ⟨m, cs₁, hm, h₁, hr⟩ := exists_of_pairs hr
      obtain ⟨m', cs₁', hm', h₁', hr'⟩ := exists_of_pairs hr'
      cases hm
      cases hm'
      cases h₁.symm.trans h₁'
      rcases hr with ⟨rfl, rfl⟩ | ⟨p, cs₂, es', cs₃, h₂, ha, h₃, hr⟩
      · rcases hr' with ⟨he, rfl⟩ | ⟨p, cs₂, fs', cs₃, h₂, -⟩
        · cases he
          exact ⟨rfl, h⟩
        · rw [pair_eq_none (by decide)] at h₂
          cases h₂
      · rcases hr' with ⟨rfl, rfl⟩ | ⟨p', cs₂', fs', cs₃', h₂', ha', h₃', hr'⟩
        · rw [pair_eq_none (by decide)] at h₂
          cases h₂
        · cases h₂.symm.trans h₂'
          cases h₃.symm.trans h₃'
          exact pairsAfter_differ ih (h.addPair ha ha') hr hr'

theorem line_differ {header header' : List String} {add : Entries → Option Entries}
    (hl : line n header cs = some ((header', add), rest)) (h : Entries.Differ s s' path es fs)
    (hr : add es = some r) (hr' : add fs = some r') : Entries.Differ s s' path r r' := by
  unfold line at hl
  split at hl
  · obtain ⟨p, -, hl⟩ := Option.bind_eq_some_iff.1 hl
    obtain ⟨cs₁, -, hl⟩ := Option.bind_eq_some_iff.1 hl
    obtain ⟨cs₂, -, hl⟩ := Option.map_eq_some_iff.1 hl
    cases hl
    exact h.addElement hr hr'
  · obtain ⟨p, -, hl⟩ := Option.bind_eq_some_iff.1 hl
    obtain ⟨cs₁, -, hl⟩ := Option.bind_eq_some_iff.1 hl
    obtain ⟨cs₂, -, hl⟩ := Option.map_eq_some_iff.1 hl
    cases hl
    exact h.addTable hr hr'
  · obtain ⟨p, -, hl⟩ := Option.bind_eq_some_iff.1 hl
    obtain ⟨cs₁, -, hl⟩ := Option.map_eq_some_iff.1 hl
    cases hl
    exact h.addUnder hr hr'

theorem document_differ {header : List String} (h : Entries.Differ s s' path es fs)
    (hr : document n header es cs = some r) (hr' : document n header fs cs = some r') :
    Entries.Differ s s' path r r' := by
  induction n generalizing header es fs cs with
  | zero => cases hr
  | succ n ih =>
      obtain ⟨m, cs₁, hm, h₁, hr⟩ := exists_of_document hr
      obtain ⟨m', cs₁', hm', h₁', hr'⟩ := exists_of_document hr'
      cases hm
      cases hm'
      cases h₁.symm.trans h₁'
      rcases hr with ⟨rfl, rfl⟩ | ⟨header₁, add, cs₂, es', hl, ha, hr⟩
      · rcases hr' with ⟨-, rfl⟩ | ⟨header₁, add, cs₂, fs', hl, -⟩
        · exact h
        · rw [line_nil] at hl
          cases hl
      · rcases hr' with ⟨rfl, -⟩ | ⟨header₁', add', cs₂', fs', hl', ha', hr'⟩
        · rw [line_nil] at hl
          cases hl
        · cases hl.symm.trans hl'
          exact ih (line_differ hl h ha ha') hr hr'

theorem basic_of_spells {v text : List Char} {p : List Char × List Char} (hv : Spells v text)
    (h : basic n (v ++ '"' :: post) = some p) : p = (text, post) := by
  induction hv generalizing n p with
  | nil =>
      cases n with
      | zero => cases h
      | succ n =>
          cases h
          rfl
  | plain hq hb _ ih =>
      cases n with
      | zero => cases h
      | succ n =>
          rw [List.cons_append, basic_cons hq hb] at h
          split at h
          · obtain ⟨p, hp, rfl⟩ := Option.map_eq_some_iff.1 h
            rw [ih hp]
          · cases h
  | @escape c e v text he _ ih =>
      cases n with
      | zero => cases h
      | succ n =>
          rw [List.cons_append, List.append_assoc] at h
          obtain ⟨q, hq, h⟩ := Option.bind_eq_some_iff.1 h
          cases (he _).symm.trans hq
          obtain ⟨p, hp, h⟩ := Option.bind_eq_some_iff.1 h
          cases h
          rw [ih hp]

/-- What fills the gap is the value, and reading goes on behind it. -/
theorem value_gap {v text : List Char} {i : Item} (hv : Spells v text) (hpost : post.head? ≠ some '"')
    (h : value n d ('"' :: (v ++ '"' :: post)) = some (i, rest)) :
    i = .string (String.ofList text) ∧ rest = post := by
  cases n with
  | zero => cases h
  | succ n =>
      have hsingle : ∀ tail, v ++ '"' :: post = '"' :: '"' :: tail → False := by
        intro tail he
        cases hv with
        | nil =>
            cases he
            exact hpost rfl
        | plain hq => exact hq (List.cons.inj he).1
        | escape => cases he
      rw [value_atom (by rintro ⟨⟩) (by rintro ⟨⟩), atom, string?_double, opened_of_ne hsingle] at h
      obtain ⟨p, hp, h⟩ := Option.map_eq_some_iff.1 h
      rw [basic_of_spells hv hp] at h
      cases h
      exact ⟨rfl, rfl⟩

theorem skipLines_ahead (h : skipLines n (x ++ '"' :: t) = some (y ++ '"' :: t)) (t' : List Char) :
    skipLines n (x ++ '"' :: t') = some (y ++ '"' :: t') := by
  obtain ⟨rest, hr, hp⟩ := Option.map_eq_some_iff.1
    ((isLocal_skipLines n).ahead (congrArg (Option.map ((), ·)) h) t')
  cases hp
  exact hr

theorem items_next {m : Nat} {i : Item} {is : List Item} {cs₁ cs₂ cs₃ : List Char}
    (hs : skipLines m cs = some cs₁) (hi : value m d cs₁ = some (i, cs₂))
    (hc : skipLines m cs₂ = some (',' :: cs₃)) (h : items n d cs = some (is, rest)) :
    ∃ k js, n = k + 1 ∧ items k d cs₃ = some (js, rest) ∧ is = i :: js := by
  obtain ⟨k, cs₁', rfl, h₁, h⟩ := exists_of_items h
  obtain rfl := agree (fun n => skipLines_step n cs) h₁ hs
  rcases h with ⟨rfl, -⟩ | ⟨i', cs₂', cs₃', js, h₂, h₃, h₄, rfl⟩
  · rw [value_bracket] at hi
    cases hi
  · cases agree (fun n => (value_step n).1 d _) h₂ hi
    cases agree (fun n => skipLines_step n _) h₃ hc
    exact ⟨k, js, rfl, h₄, rfl⟩

theorem pairs_next {m : Nat} {p : List String × Item} {es' : Entries} {cs₁ cs₂ cs₃ : List Char}
    (hs : skipLines m cs = some cs₁) (hp : pair m d cs₁ = some (p, cs₂))
    (ha : addPair p.1 p.2 .inline es = some es') (hc : skipLines m cs₂ = some (',' :: cs₃))
    (h : pairs n d es cs = some (r, rest)) : ∃ k, n = k + 1 ∧ pairs k d es' cs₃ = some (r, rest) := by
  obtain ⟨k, cs₁', rfl, h₁, h⟩ := exists_of_pairs h
  obtain rfl := agree (fun n => skipLines_step n cs) h₁ hs
  rcases h with ⟨rfl, -⟩ | ⟨p', cs₂', fs', cs₃', h₂, ha', h₃, h₄⟩
  · rw [pair_eq_none (by decide)] at hp
    cases hp
  · cases agree (fun n => pair_step n d _) h₂ hp
    cases ha'.symm.trans ha
    cases agree (fun n => skipLines_step n _) h₃ hc
    exact ⟨k, rfl, h₄⟩

theorem document_next {m : Nat} {header header' : List String} {add : Entries → Option Entries}
    {es' : Entries} {cs₁ cs₂ : List Char} (hs : skipLines m cs = some cs₁)
    (hl : line m header cs₁ = some ((header', add), cs₂)) (ha : add es = some es')
    (h : document n header es cs = some r) : ∃ k, n = k + 1 ∧ document k header' es' cs₂ = some r := by
  obtain ⟨k, cs₁', rfl, h₁, h⟩ := exists_of_document h
  obtain rfl := agree (fun n => skipLines_step n cs) h₁ hs
  rcases h with ⟨rfl, -⟩ | ⟨header₁, add', cs₂', es₁, hl', ha', h⟩
  · rw [line_nil] at hl
    cases hl
  · cases agree (fun n => line_step n header _) hl' hl
    cases ha'.symm.trans ha
    exact ⟨k, rfl, h⟩

theorem pair_value {m : Nat} {ks : List String} {p : List String × Item} {z : List Char}
    (hk : key m cs = some (ks, '=' :: z ++ '"' :: t)) (h : pair n d cs = some (p, rest)) :
    ∃ i, p = (ks, i) ∧ value n d (skipBlanks z ++ '"' :: t) = some (i, rest) := by
  obtain ⟨q, hq, h⟩ := Option.bind_eq_some_iff.1 h
  cases agree (fun n => key_step n cs) hq hk
  rw [List.cons_append, stripStart?, if_pos rfl, stripStart?, Option.bind_some, skipBlanks_append] at h
  obtain ⟨q, hq, h⟩ := Option.map_eq_some_iff.1 h
  cases h
  exact ⟨q.1, rfl, hq⟩

theorem line_pair {m : Nat} {header header' : List String} {ks : List String}
    {add : Entries → Option Entries} {cs₁ cs₂ : List Char} (hk : key m cs = some (ks, cs₁))
    (h : line n header cs = some ((header', add), cs₂)) : ∃ p cs₃, pair n deepest cs = some (p, cs₃) ∧
      endLine cs₃ = some cs₂ ∧ header' = header ∧ add = addUnder header p.1 p.2 := by
  have hne : ∀ rest, cs ≠ '[' :: rest := by
    rintro rest rfl
    rw [key_eq_none (by decide)] at hk
    cases hk
  rw [line] at h
  · obtain ⟨p, hp, h⟩ := Option.bind_eq_some_iff.1 h
    obtain ⟨cs₃, hend, h⟩ := Option.map_eq_some_iff.1 h
    cases h
    exact ⟨p.1, p.2, hp, hend, rfl, rfl⟩
  · exact fun rest he => hne _ he
  · exact hne

theorem Due.ne_bracket {d : Nat} (h : Due (.value d) x path) (t' rest : List Char) :
    x ++ '"' :: t' ≠ ']' :: rest := by
  cases h <;> rintro ⟨⟩

/-- What reading at a spot comes to, if the two texts differ behind a quote only. -/
def Alike (s s' : String) (t t' x : List Char) (path : Path) : Spot → Prop
  | .value d => ∀ {n i j r r'}, value n d (x ++ '"' :: t) = some (i, r) →
      value n d (x ++ '"' :: t') = some (j, r') → r = r' ∧ Item.Differ s s' path i j
  | .items d count => ∀ {n is js r r'}, items n d (x ++ '"' :: t) = some (is, r) →
      items n d (x ++ '"' :: t') = some (js, r') → r = r' ∧ ∀ before : List Item,
        before.length = count → Item.Differ s s' path (.array (before ++ is)) (.array (before ++ js))
  | .pairs d es => ∀ {n fs fs' r r'}, pairs n d es (x ++ '"' :: t) = some (fs, r) →
      pairs n d es (x ++ '"' :: t') = some (fs', r') → r = r' ∧ Entries.Differ s s' path fs fs'
  | .document header es => ∀ {n fs fs'}, document n header es (x ++ '"' :: t) = some fs →
      document n header es (x ++ '"' :: t') = some fs' → Entries.Differ s s' path fs fs'

namespace Alike

theorem here (ht : ∀ {n d i r}, value n d ('"' :: t) = some (i, r) → i = .string s ∧ r = post)
    (ht' : ∀ {n d i r}, value n d ('"' :: t') = some (i, r) → i = .string s' ∧ r = post) :
    Alike s s' t t' [] [] (.value d) := by
  intro n i j r r' hi hj
  obtain ⟨rfl, rfl⟩ := ht hi
  obtain ⟨rfl, rfl⟩ := ht' hj
  exact ⟨rfl, .here⟩

theorem array (h : Alike s s' t t' x path (.items d 0)) :
    Alike s s' t t' ('[' :: x) path (.value (d + 1)) := by
  intro n i j r r' hi hj
  cases n with
  | zero => cases hi
  | succ n =>
      obtain ⟨p, hp, hi⟩ := Option.map_eq_some_iff.1 hi
      obtain ⟨q, hq, hj⟩ := Option.map_eq_some_iff.1 hj
      cases hi
      cases hj
      obtain ⟨hr, hd⟩ := h hp hq
      exact ⟨hr, hd [] rfl⟩

theorem inline (h : Alike s s' t t' x path (.pairs d [])) :
    Alike s s' t t' ('\x7b' :: x) path (.value (d + 1)) := by
  intro n i j r r' hi hj
  cases n with
  | zero => cases hi
  | succ n =>
      obtain ⟨p, hp, hi⟩ := Option.map_eq_some_iff.1 hi
      obtain ⟨q, hq, hj⟩ := Option.map_eq_some_iff.1 hj
      cases hi
      cases hj
      obtain ⟨hr, hd⟩ := h hp hq
      exact ⟨hr, .table .inline hd⟩

theorem item {count : Nat} (hs : skipLines n (x ++ ['"']) = some (y ++ ['"']))
    (hdue : Due (.value d) y path) (h : Alike s s' t t' y path (.value d)) :
    Alike s s' t t' x (.index count :: path) (.items d count) := by
  intro n is js r r' his hjs
  obtain ⟨k, cs₁, rfl, h₁, his⟩ := exists_of_items his
  obtain ⟨k', cs₁', hk, h₁', hjs⟩ := exists_of_items hjs
  cases hk
  obtain rfl := agree (fun n => skipLines_step n _) h₁ (skipLines_ahead hs t)
  obtain rfl := agree (fun n => skipLines_step n _) h₁' (skipLines_ahead hs t')
  -- The array does not end where a value is due.
  rcases his with ⟨he, -⟩ | ⟨i, cs₂, cs₃, tail, h₂, h₃, h₄, rfl⟩
  · exact absurd he (hdue.ne_bracket _ _)
  rcases hjs with ⟨he, -⟩ | ⟨j, cs₂', cs₃', tail', h₂', h₃', h₄', rfl⟩
  · exact absurd he (hdue.ne_bracket _ _)
  obtain ⟨rfl, hd⟩ := h h₂ h₂'
  cases h₃.symm.trans h₃'
  cases h₄.symm.trans h₄'
  refine ⟨rfl, fun before hbefore => ?_⟩
  rw [← hbefore]
  exact .array before hd tail

theorem nextItem {count : Nat} {i : Item} {z w : List Char}
    (hs : skipLines n (x ++ ['"']) = some (y ++ ['"']))
    (hi : value n d (y ++ ['"']) = some (i, z ++ ['"']))
    (hc : skipLines n (z ++ ['"']) = some (',' :: w ++ ['"']))
    (h : Alike s s' t t' w path (.items d (count + 1))) :
    Alike s s' t t' x path (.items d count) := by
  intro n is js r r' his hjs
  obtain ⟨k, is', hk, his', rfl⟩ := items_next (skipLines_ahead hs t)
    (((isLocal_value _).1 _).ahead hi t) (skipLines_ahead hc t) his
  obtain ⟨k', js', hk', hjs', rfl⟩ := items_next (skipLines_ahead hs t')
    (((isLocal_value _).1 _).ahead hi t') (skipLines_ahead hc t') hjs
  cases hk.symm.trans hk'
  obtain ⟨hr, hd⟩ := h his' hjs'
  refine ⟨hr, fun before hbefore => ?_⟩
  have hmore := hd (before ++ [i]) (by rw [List.length_append, hbefore]; rfl)
  rwa [List.append_assoc, List.append_assoc] at hmore

theorem pair {ks : List String} {z : List Char} (hs : skipLines n (x ++ ['"']) = some (y ++ ['"']))
    (hk : key n (y ++ ['"']) = some (ks, '=' :: z ++ ['"']))
    (h : Alike s s' t t' (skipBlanks z) path (.value d)) :
    Alike s s' t t' x (es.place ks ++ path) (.pairs d es) := by
  intro n fs fs' r r' hfs hfs'
  have hkt := (isLocal_key _).ahead hk t
  have hkt' := (isLocal_key _).ahead hk t'
  obtain ⟨k, cs₁, rfl, h₁, hfs⟩ := exists_of_pairs hfs
  obtain ⟨k', cs₁', hn, h₁', hfs'⟩ := exists_of_pairs hfs'
  cases hn
  obtain rfl := agree (fun n => skipLines_step n _) h₁ (skipLines_ahead hs t)
  obtain rfl := agree (fun n => skipLines_step n _) h₁' (skipLines_ahead hs t')
  rcases hfs with ⟨he, -⟩ | ⟨p, cs₂, es₁, cs₃, h₂, ha, h₃, hfs⟩
  · rw [he, key_eq_none (by decide)] at hkt
    cases hkt
  rcases hfs' with ⟨he, -⟩ | ⟨p', cs₂', es₁', cs₃', h₂', ha', h₃', hfs'⟩
  · rw [he, key_eq_none (by decide)] at hkt'
    cases hkt'
  obtain ⟨i, rfl, hi⟩ := pair_value hkt h₂
  obtain ⟨j, rfl, hj⟩ := pair_value hkt' h₂'
  obtain ⟨rfl, hd⟩ := h hi hj
  cases h₃.symm.trans h₃'
  exact pairsAfter_differ pairs_differ (hd.addPair ha ha') hfs hfs'

theorem nextPair {p : List String × Item} {z w : List Char}
    (hs : skipLines n (x ++ ['"']) = some (y ++ ['"']))
    (hp : Parser.pair n d (y ++ ['"']) = some (p, z ++ ['"']))
    (ha : addPair p.1 p.2 .inline es = some fs)
    (hc : skipLines n (z ++ ['"']) = some (',' :: w ++ ['"']))
    (h : Alike s s' t t' w path (.pairs d fs)) : Alike s s' t t' x path (.pairs d es) := by
  intro n gs gs' r r' hgs hgs'
  obtain ⟨k, hk, hgs⟩ := pairs_next (skipLines_ahead hs t)
    ((isLocal_pair ((isLocal_value _).1 _)).ahead hp t) ha (skipLines_ahead hc t) hgs
  obtain ⟨k', hk', hgs'⟩ := pairs_next (skipLines_ahead hs t')
    ((isLocal_pair ((isLocal_value _).1 _)).ahead hp t') ha (skipLines_ahead hc t') hgs'
  cases hk.symm.trans hk'
  exact h hgs hgs'

theorem line {header ks : List String} {z : List Char}
    (hs : skipLines n (x ++ ['"']) = some (y ++ ['"']))
    (hk : key n (y ++ ['"']) = some (ks, '=' :: z ++ ['"']))
    (h : Alike s s' t t' (skipBlanks z) path (.value deepest)) :
    Alike s s' t t' x (es.place (header ++ ks) ++ path) (.document header es) := by
  intro n fs fs' hfs hfs'
  have hkt := (isLocal_key _).ahead hk t
  have hkt' := (isLocal_key _).ahead hk t'
  obtain ⟨k, cs₁, rfl, h₁, hrest⟩ := exists_of_document hfs
  obtain ⟨k', cs₁', hn, h₁', hrest'⟩ := exists_of_document hfs'
  cases hn
  obtain rfl := agree (fun n => skipLines_step n _) h₁ (skipLines_ahead hs t)
  obtain rfl := agree (fun n => skipLines_step n _) h₁' (skipLines_ahead hs t')
  rcases hrest with ⟨he, -⟩ | ⟨header₁, add, cs₂, es₁, hl, ha, hrest⟩
  · cases List.append_ne_nil_of_right_ne_nil _ (List.cons_ne_nil _ _) he
  rcases hrest' with ⟨he, -⟩ | ⟨header₁', add', cs₂', es₁', hl', ha', hrest'⟩
  · cases List.append_ne_nil_of_right_ne_nil _ (List.cons_ne_nil _ _) he
  obtain ⟨p, cs₃, hp, hend, rfl, rfl⟩ := line_pair hkt hl
  obtain ⟨p', cs₃', hp', hend', rfl, rfl⟩ := line_pair hkt' hl'
  obtain ⟨i, rfl, hi⟩ := pair_value hkt hp
  obtain ⟨j, rfl, hj⟩ := pair_value hkt' hp'
  obtain ⟨rfl, hd⟩ := h hi hj
  cases hend.symm.trans hend'
  exact document_differ (hd.addUnder ha ha') hrest hrest'

theorem nextLine {header header' : List String} {add : Entries → Option Entries} {z : List Char}
    (hs : skipLines n (x ++ ['"']) = some (y ++ ['"']))
    (hl : Parser.line n header (y ++ ['"']) = some ((header', add), z ++ ['"']))
    (ha : add es = some fs) (h : Alike s s' t t' z path (.document header' fs)) :
    Alike s s' t t' x path (.document header es) := by
  intro n gs gs' hgs hgs'
  obtain ⟨k, hk, hgs⟩ := document_next (skipLines_ahead hs t) ((isLocal_line _ _).ahead hl t) ha hgs
  obtain ⟨k', hk', hgs'⟩ := document_next (skipLines_ahead hs t') ((isLocal_line _ _).ahead hl t') ha hgs'
  cases hk.symm.trans hk'
  exact h hgs hgs'

end Alike

theorem Due.alike {spot : Spot} (h : Due spot x path)
    (ht : ∀ {n d i r}, value n d ('"' :: t) = some (i, r) → i = .string s ∧ r = post)
    (ht' : ∀ {n d i r}, value n d ('"' :: t') = some (i, r) → i = .string s' ∧ r = post) :
    Alike s s' t t' x path spot := by
  induction h with
  | here => exact Alike.here ht ht'
  | array _ ih => exact Alike.array ih
  | inline _ ih => exact Alike.inline ih
  | item hs hdue ih => exact Alike.item hs hdue ih
  | nextItem hs hi hc _ ih => exact Alike.nextItem hs hi hc ih
  | pair hs hk _ ih => exact Alike.pair hs hk ih
  | nextPair hs hp ha hc _ ih => exact Alike.nextPair hs hp ha hc ih
  | line hs hk _ ih => exact Alike.line hs hk ih
  | nextLine hs hl ha _ ih => exact Alike.nextLine hs hl ha ih

end Parser

def skipMark : List Char → List Char
  | '\ufeff' :: cs => cs
  | cs => cs

theorem skipMark_append (x t : List Char) : skipMark (x ++ '"' :: t) = skipMark x ++ '"' :: t := by
  cases x with
  | nil => rfl
  | cons c x =>
      by_cases hc : c = '\ufeff'
      · subst hc
        rfl
      · have hmark : ∀ cs, skipMark (c :: cs) = c :: cs := fun cs => skipMark.eq_2 _ fun _ h => hc (List.cons.inj h).1
        rw [List.cons_append, hmark, hmark, List.cons_append]

/-- Two fillings make documents that differ where the path leads, and there stand the texts that the
fillings spell. -/
theorem parse?_gap {v v' text text' pre post : List Char} {path : Path} {es fs : Entries}
    (hdue : Parser.Due (.document [] []) (skipMark pre) path) (hpost : post.head? ≠ some '"')
    (hv : Spells v text) (hv' : Spells v' text')
    (h : parse? (pre ++ '"' :: (v ++ '"' :: post)) = some es)
    (h' : parse? (pre ++ '"' :: (v' ++ '"' :: post)) = some fs) :
    Entries.Differ (String.ofList text) (String.ofList text') path es fs := by
  change Parser.document _ [] [] (skipMark _) = some es at h
  change Parser.document _ [] [] (skipMark _) = some fs at h'
  rw [skipMark_append] at h h'
  have hstep := fun cs n => Parser.document_step n [] [] cs
  exact hdue.alike (fun h => Parser.value_gap hv hpost h) (fun h => Parser.value_gap hv' hpost h)
    ((Parser.Refines.of_le (hstep _) (Nat.le_max_left _ _)).eq_some h)
    ((Parser.Refines.of_le (hstep _) (Nat.le_max_right _ _)).eq_some h')

end ChatTurn.Toml
