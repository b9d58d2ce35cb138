import ChatTurn.Config.Placeholder
import ChatTurn.Proofs.Text.Trim

namespace ChatTurn.Placeholder

open Text (stripStart? stripStart?_eq_some_iff)

inductive SpellsDefault : Option (List Char) → List Char → Prop
  | absent : SpellsDefault none []
  | given {gap text : List Char} (hg : Text.isBlank gap = true) (ht : '"' ∉ text) :
      SpellsDefault (some text) (['|'] ++ gap ++ "default(\"".toList ++ text ++ "\")".toList)

/-- A key between double braces, with a default or without one, and white space at will. -/
inductive Spells : Placeholder → List Char → Prop
  | braced {before key middle after d : List Char} {default : Option (List Char)}
      (hb : Text.isBlank before = true) (hk : key ≠ []) (hkey : ∀ c ∈ key, isKeyPart c = true)
      (hm : Text.isBlank middle = true) (hd : SpellsDefault default d)
      (ha : Text.isBlank after = true) :
      Spells ⟨key, default⟩ (['\x7b', '\x7b'] ++ before ++ key ++ middle ++ d ++ after ++ ['\x7d', '\x7d'])

variable {cs rest t t' : List Char} {p p' : Placeholder} {c : Char} {d : Option (List Char)}

theorem isWhite_of_isKeyPart (h : isKeyPart c = true) : isWhite c = false := by
  apply isWhite_of_visible
  simp only [isKeyPart, Bool.or_eq_true, decide_eq_true_eq, beq_iff_eq, Char.le_def,
    UInt32.le_iff_toNat_le] at h
  have hnat : c.toNat = c.val.toNat := rfl
  rcases h with (((h | h) | h) | rfl) | rfl
  · have h₁ : 97 ≤ c.val.toNat := h.1
    have h₂ : c.val.toNat ≤ 122 := h.2
    omega
  · have h₁ : 65 ≤ c.val.toNat := h.1
    have h₂ : c.val.toNat ≤ 90 := h.2
    omega
  · have h₁ : 48 ≤ c.val.toNat := h.1
    have h₂ : c.val.toNat ≤ 57 := h.2
    omega
  all_goals decide

theorem span_append {q : Char → Bool} (hcs : ∀ c ∈ cs, q c = true)
    (hr : ∀ c ∈ rest.head?, q c = false) :
    (cs ++ rest).takeWhile q = cs ∧ (cs ++ rest).dropWhile q = rest := by
  rw [List.takeWhile_append_of_pos hcs, List.dropWhile_append_of_pos hcs]
  cases rest with
  | nil => simp
  | cons c rest => simp [hr c rfl]

theorem trimStart_append (hcs : Text.isBlank cs = true) (hr : ∀ c ∈ rest.head?, isWhite c = false) :
    Text.trimStart (cs ++ rest) = rest :=
  (span_append (Text.isBlank_iff.1 hcs) hr).2

theorem exists_trimStart (cs : List Char) :
    ∃ blank, Text.isBlank blank = true ∧ cs = blank ++ Text.trimStart cs := by
  refine ⟨cs.takeWhile isWhite, Text.isBlank_iff.2 fun c hc => ?_, ?_⟩
  · exact List.all_eq_true.1 List.all_takeWhile c hc
  · rw [Text.trimStart, List.takeWhile_append_dropWhile]

theorem head?_blank_append (hb : Text.isBlank cs = true) (hc : c ∈ (cs ++ rest).head?) :
    isWhite c = true ∨ c ∈ rest.head? := by
  cases cs with
  | nil => exact .inr hc
  | cons d cs =>
      cases hc
      exact .inl (Text.isBlank_iff.1 hb c List.mem_cons_self)

theorem default?_of_spells (h : SpellsDefault d t) (hr : ∀ c ∈ rest.head?, c ≠ '|') :
    default? (t ++ rest) = (d, rest) := by
  cases h with
  | absent =>
      have hn : stripStart? ['|'] rest = none := by
        cases rest with
        | nil => rfl
        | cons c rest => simp [stripStart?, (hr c rfl).symm]
      rw [List.nil_append, default?, hn]
      rfl
  | @given gap text hg ht =>
      have hbar : stripStart? ['|'] (['|'] ++ gap ++ "default(\"".toList ++ text ++ "\")".toList ++ rest) =
          some (gap ++ ("default(\"".toList ++ (text ++ ("\")".toList ++ rest)))) := by
        rw [stripStart?_eq_some_iff]
        simp only [List.append_assoc]
      have hgap : Text.trimStart (gap ++ ("default(\"".toList ++ (text ++ ("\")".toList ++ rest)))) =
          "default(\"".toList ++ (text ++ ("\")".toList ++ rest)) := by
        refine trimStart_append hg ?_
        rintro c ⟨⟩
        rfl
      have hcall : stripStart? "default(\"".toList
          ("default(\"".toList ++ (text ++ ("\")".toList ++ rest))) =
            some (text ++ ("\")".toList ++ rest)) := stripStart?_eq_some_iff.2 rfl
      obtain ⟨htake, hdrop⟩ : (text ++ ("\")".toList ++ rest)).takeWhile (· ≠ '"') = text ∧
          (text ++ ("\")".toList ++ rest)).dropWhile (· ≠ '"') = "\")".toList ++ rest := by
        refine span_append (fun c hc => decide_eq_true fun he => ht (he ▸ hc)) ?_
        rintro c ⟨⟩
        rfl
      have hend : stripStart? "\")".toList ("\")".toList ++ rest) = some rest :=
        stripStart?_eq_some_iff.2 rfl
      rw [default?, hbar]
      simp only [Option.bind_eq_bind, Option.bind_some, hgap, hcall, htake, hdrop, hend]

theorem exists_of_default? (cs : List Char) :
    ∃ t, SpellsDefault (default? cs).1 t ∧ cs = t ++ (default? cs).2 := by
  rw [default?]
  split
  · next text rest hf =>
      obtain ⟨cs₁, h₁, hf⟩ := Option.bind_eq_some_iff.1 hf
      obtain ⟨cs₂, h₂, hf⟩ := Option.bind_eq_some_iff.1 hf
      obtain ⟨rest', h₃, hf⟩ := Option.bind_eq_some_iff.1 hf
      cases hf
      obtain ⟨gap, hg, hgap⟩ := exists_trimStart cs₁
      rw [stripStart?_eq_some_iff] at h₁ h₂ h₃
      have hquote : '"' ∉ cs₂.takeWhile (· ≠ '"') := by
        intro hm
        have hne := List.all_eq_true.1 List.all_takeWhile _ hm
        exact of_decide_eq_true hne rfl
      have hcs₂ : cs₂.takeWhile (· ≠ '"') ++ ("\")".toList ++ rest) = cs₂ := by
        rw [← h₃, List.takeWhile_append_dropWhile]
      refine ⟨_, .given hg hquote, ?_⟩
      rw [h₁, hgap, h₂]
      simp only [List.append_assoc, hcs₂]
  · exact ⟨[], .absent, rfl⟩

theorem default?_between {middle after : List Char} (hm : Text.isBlank middle = true)
    (hd : SpellsDefault d t) (ha : Text.isBlank after = true) (rest : List Char) :
    ∃ cs, default? (Text.trimStart (middle ++ (t ++ (after ++ '\x7d' :: rest)))) = (d, cs) ∧
      Text.trimStart cs = '\x7d' :: rest := by
  have hafter : Text.trimStart (after ++ '\x7d' :: rest) = '\x7d' :: rest :=
    trimStart_append ha (by rintro c ⟨⟩; rfl)
  have hbar : ∀ c ∈ (after ++ '\x7d' :: rest).head?, c ≠ '|' := by
    rintro c hc rfl
    rcases head?_blank_append ha hc with hw | hw <;> cases hw
  cases hd with
  | absent =>
      refine ⟨'\x7d' :: rest, ?_, ?_⟩
      · have hblank : Text.isBlank (middle ++ after) = true := by
          rw [Text.isBlank, List.all_append]
          exact Bool.and_eq_true_iff.2 ⟨hm, ha⟩
        rw [List.nil_append, ← List.append_assoc, trimStart_append hblank (by rintro c ⟨⟩; rfl)]
        exact default?_of_spells .absent (by rintro c ⟨⟩; decide)
      · exact List.dropWhile_cons_of_neg (by decide)
  | given hg ht =>
      refine ⟨after ++ '\x7d' :: rest, ?_, hafter⟩
      rw [trimStart_append hm (by rintro c ⟨⟩; rfl)]
      exact default?_of_spells (.given hg ht) hbar

theorem read?_of_spells (h : Spells p t) (rest : List Char) : read? (t ++ rest) = some (p, rest) := by
  cases h with
  | @braced before key middle after d default hb hk hkey hm hd ha =>
      obtain ⟨tail, htail⟩ : ∃ tail, tail = middle ++ (d ++ (after ++ '\x7d' :: ('\x7d' :: rest))) :=
        ⟨_, rfl⟩
      obtain ⟨cs, hdefault, hcs⟩ := default?_between hm hd ha ('\x7d' :: rest)
      have hopen : stripStart? ['\x7b', '\x7b'] (['\x7b', '\x7b'] ++ before ++ key ++ middle ++ d ++
          after ++ ['\x7d', '\x7d'] ++ rest) = some (before ++ (key ++ tail)) := by
        rw [stripStart?_eq_some_iff, htail]
        simp only [List.append_assoc, List.cons_append, List.nil_append]
      have hbefore : Text.trimStart (before ++ (key ++ tail)) = key ++ tail := by
        obtain ⟨k, key, rfl⟩ := List.exists_cons_of_ne_nil hk
        exact trimStart_append hb (by rintro c ⟨⟩; exact isWhite_of_isKeyPart (hkey k List.mem_cons_self))
      have hstop : ∀ c ∈ tail.head?, isKeyPart c = false := by
        have hwhite : ∀ {c}, isWhite c = true → isKeyPart c = false := fun hw =>
          Bool.eq_false_iff.2 fun hc => Bool.noConfusion (hw.symm.trans (isWhite_of_isKeyPart hc))
        rw [htail]
        intro c hc
        rcases head?_blank_append hm hc with hw | hc
        · exact hwhite hw
        · cases hd with
          | absent =>
              rcases head?_blank_append ha hc with hw | hc
              · exact hwhite hw
              · cases hc
                rfl
          | given =>
              cases hc
              rfl
      obtain ⟨htake, hdrop⟩ := span_append hkey hstop
      have hne : key.isEmpty = false := by rwa [List.isEmpty_eq_false_iff]
      rw [← htail] at hdefault
      rw [read?, hopen]
      simp only [Option.bind_eq_bind, Option.bind_some, hbefore, htake, hdrop, hne, hdefault, hcs,
        stripStart?, if_true, Bool.false_eq_true, if_false]

theorem exists_of_read? (h : read? cs = some (p, rest)) : ∃ t, Spells p t ∧ cs = t ++ rest := by
  obtain ⟨cs₁, h₁, h⟩ := Option.bind_eq_some_iff.1 h
  dsimp only at h
  split at h
  · cases h
  · next hkey =>
      obtain ⟨cs₃, h₃, h⟩ := Option.bind_eq_some_iff.1 h
      cases h
      obtain ⟨before, hb, hbefore⟩ := exists_trimStart cs₁
      generalize Text.trimStart cs₁ = cs₂ at *
      obtain ⟨middle, hm, hmiddle⟩ := exists_trimStart (cs₂.dropWhile isKeyPart)
      obtain ⟨d, hd, hdefault⟩ := exists_of_default? (Text.trimStart (cs₂.dropWhile isKeyPart))
      obtain ⟨after, ha, hafter⟩ := exists_trimStart
        (default? (Text.trimStart (cs₂.dropWhile isKeyPart))).2
      rw [stripStart?_eq_some_iff] at h₁ h₃
      have hall : ∀ c ∈ cs₂.takeWhile isKeyPart, isKeyPart c = true :=
        List.all_eq_true.1 List.all_takeWhile
      have hkeyed : cs₂.takeWhile isKeyPart ++ (middle ++ (d ++ (after ++
          (['\x7d', '\x7d'] ++ rest)))) = cs₂ := by
        rw [← h₃, ← hafter, ← hdefault, ← hmiddle, List.takeWhile_append_dropWhile]
      refine ⟨_, .braced hb (fun he => hkey (List.isEmpty_iff.2 he)) hall hm hd ha, ?_⟩
      rw [h₁, hbefore]
      simp only [List.append_assoc, hkeyed]

theorem spells_of_read? (h : read? t = some (p, [])) : Spells p t := by
  obtain ⟨t, ht, rfl⟩ := exists_of_read? h
  rwa [List.append_nil]

theorem read?_eq_none_iff : read? cs = none ↔ ∀ p t, Spells p t → ¬ t <+: cs := by
  constructor
  · rintro hn p t h ⟨rest, rfl⟩
    rw [read?_of_spells h] at hn
    cases hn
  · intro hn
    rw [Option.eq_none_iff_forall_ne_some]
    rintro ⟨p, rest⟩ h
    obtain ⟨t, ht, rfl⟩ := exists_of_read? h
    exact hn p t ht (List.prefix_append t rest)

end ChatTurn.Placeholder
