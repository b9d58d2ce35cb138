import ChatTurn.Tool.FunctionTag
import ChatTurn.Proofs.Text.Splicing
import ChatTurn.Proofs.Text.Occurrence
import ChatTurn.Proofs.Text.Trim

namespace ChatTurn.FunctionTag

variable {cs : List Char}

theorem next?_eq_none_iff : next? cs = none ↔ ¬ opening <:+: cs := by
  rw [next?, Option.map_eq_none_iff, Text.cut?_eq_none_iff]

theorem scan_of_untagged (h : ¬ opening <:+: cs) : scan cs = .ok (cs, []) := by
  rw [scan]
  split
  · rfl
  · next he =>
      rw [next?_eq_none_iff.2 h] at he
      cases he
  · next he =>
      rw [next?_eq_none_iff.2 h] at he
      cases he

theorem extract_of_untagged (h : ¬ opening <:+: cs) : extract cs = .ok (cs, []) := by
  rw [extract, scan_of_untagged h]
  rfl

theorem count_of_next? {before tag rest : List Char}
    (h : next? cs = some (.ok (before, tag, rest))) :
    cs.count '<' = before.count '<' + rest.count '<' + tag.count '<' ∧ 0 < tag.count '<' := by
  cases hc : Text.cut? opening cs with
  | none => simp [next?, hc] at h
  | some p =>
      obtain ⟨b, a⟩ := p
      simp only [next?, hc, Option.map_some, Option.some.injEq] at h
      cases hd : Text.cut? closing a with
      | none => simp [hd] at h
      | some q =>
          obtain ⟨i, r⟩ := q
          simp only [hd, Except.ok.injEq, Prod.mk.injEq] at h
          obtain ⟨rfl, rfl, rfl⟩ := h
          have ho : opening.count '<' = 1 := by decide
          rw [Text.eq_of_cut? hc, Text.eq_of_cut? hd]
          simp only [List.count_append]
          omega

theorem count_scan {prose : List Char} {calls : List Invocation} (h : scan cs = .ok (prose, calls)) :
    prose.count '<' + calls.length ≤ cs.count '<' := by
  fun_induction scan cs generalizing prose calls with
  | case1 cs hn =>
      cases h
      exact Nat.le_refl _
  | case2 cs e hn => cases h
  | case3 cs before tag rest hn _ e he => cases h
  | case4 cs before tag rest hn _ call he ih =>
      cases hs : scan rest with
      | error e =>
          rw [hs] at h
          cases h
      | ok p =>
          obtain ⟨prose', calls'⟩ := p
          rw [hs] at h
          cases h
          have hr := ih hs
          obtain ⟨hc, ht⟩ := count_of_next? hn
          rw [List.count_append, List.length_cons]
          omega

theorem calls_of_tagged {prose : List Char} {calls : List Invocation} (h : opening <:+: cs)
    (hs : scan cs = .ok (prose, calls)) : calls ≠ [] := by
  rw [scan] at hs
  split at hs
  · next hn => exact absurd h (next?_eq_none_iff.1 hn)
  · cases hs
  · next rest _ =>
      split at hs
      · cases hs
      · rintro rfl
        cases hr : scan rest with
        | error e =>
            rw [hr] at hs
            cases hs
        | ok p =>
            rw [hr] at hs
            cases hs

theorem count_of_extract {prose : List Char} {calls : List Invocation} (h : opening <:+: cs)
    (he : extract cs = .ok (prose, calls)) : prose.count '<' < cs.count '<' := by
  rw [extract] at he
  cases hs : scan cs with
  | error e =>
      rw [hs] at he
      cases he
  | ok p =>
      obtain ⟨prose', calls'⟩ := p
      have hn : calls' ≠ [] := calls_of_tagged h hs
      have hc := count_scan hs
      have hl := List.length_pos_iff.2 hn
      rw [hs] at he
      simp only [Except.map, List.isEmpty_iff, hn, if_false, Except.ok.injEq, Prod.mk.injEq] at he
      rw [← he.1, Text.count_trimEnd (by decide)]
      omega

theorem scan_of_next? {before tag rest : List Char}
    (h : next? cs = some (.ok (before, tag, rest))) : scan cs = match parse tag with
      | .error e => .error e
      | .ok call => (scan rest).map fun (prose, calls) => (before ++ prose, call :: calls) := by
  rw [scan]
  split
  · next hs => cases h.symm.trans hs
  · next hs => cases h.symm.trans hs
  · next hs =>
      cases h.symm.trans hs
      rfl

theorem exists_of_scan {before tag rest prose : List Char} {calls : List Invocation}
    (h : next? cs = some (.ok (before, tag, rest))) (hs : scan cs = .ok (prose, calls)) :
    ∃ call q is, parse tag = .ok call ∧ scan rest = .ok (q, is) ∧ prose = before ++ q ∧
      calls = call :: is := by
  rw [scan_of_next? h] at hs
  cases hp : parse tag with
  | error e =>
      rw [hp] at hs
      cases hs
  | ok call =>
      rw [hp] at hs
      cases hr : scan rest with
      | error e =>
          rw [hr] at hs
          cases hs
      | ok r =>
          rw [hr] at hs
          cases hs
          exact ⟨call, r.1, r.2, rfl, rfl, rfl, rfl⟩

theorem next?_of_part (xs ys : List Char) {before tag rest : List Char}
    (h : next? (xs ++ (before ++ tag ++ rest) ++ ys) = some (.ok (xs ++ before, tag, rest ++ ys))) :
    next? (before ++ tag ++ rest) = some (.ok (before, tag, rest)) := by
  obtain ⟨⟨b, a⟩, hopen, he⟩ := Option.map_eq_some_iff.1 h
  dsimp only at he
  cases hclose : Text.cut? closing a with
  | none =>
      rw [hclose] at he
      cases he
  | some p =>
      obtain ⟨inner, r⟩ := p
      rw [hclose] at he
      cases he
      obtain rfl := Text.eq_of_cut? hclose
      have hclose' : Text.cut? closing (inner ++ closing ++ rest) = some (inner, rest) := by
        apply Text.cut?_of_part [] ys
        simpa only [List.nil_append, List.append_assoc] using hclose
      have hopen' : Text.cut? opening (before ++ opening ++ (inner ++ closing ++ rest)) =
          some (before, inner ++ closing ++ rest) := by
        apply Text.cut?_of_part xs ys
        simpa only [List.append_assoc] using hopen
      have hassoc : before ++ (opening ++ inner ++ closing) ++ rest =
          before ++ opening ++ (inner ++ closing ++ rest) := by
        simp only [List.append_assoc]
      rw [next?, hassoc, hopen']
      simp only [Option.map_some, hclose']

/-- The texts before, between and after the tags. -/
def pieces (cs : List Char) : List (List Char) :=
  match h : next? cs with
  | none => [cs]
  | some (.error _) => [cs]
  | some (.ok (before, _, rest)) =>
    have := length_of_next? h
    before :: pieces rest
termination_by cs.length

theorem pieces_of_none (h : next? cs = none) : pieces cs = [cs] := by
  rw [pieces]
  split
  · rfl
  · rfl
  · next hs => cases h.symm.trans hs

theorem pieces_of_next? {before tag rest : List Char}
    (h : next? cs = some (.ok (before, tag, rest))) : pieces cs = before :: pieces rest := by
  rw [pieces]
  split
  · next hs => cases h.symm.trans hs
  · next hs => cases h.symm.trans hs
  · next hs =>
      cases h.symm.trans hs
      rfl

theorem not_isInfix_of_next? {before tag rest : List Char}
    (h : next? cs = some (.ok (before, tag, rest))) : ¬ opening <:+: before := by
  obtain ⟨⟨b, a⟩, hc, he⟩ := Option.map_eq_some_iff.1 h
  dsimp only at he
  split at he
  · cases he
  · cases he
    exact Text.not_isInfix_before (by decide) hc

/-- The prose is all that stands around the tags, none of which opens in a piece of it. -/
theorem prose_of_scan {prose : List Char} {calls : List Invocation}
    (h : scan cs = .ok (prose, calls)) :
    prose = (pieces cs).flatten ∧ ∀ p ∈ pieces cs, ¬ opening <:+: p := by
  fun_induction scan cs generalizing prose calls with
  | case1 cs hn =>
      cases h
      rw [pieces_of_none hn]
      exact ⟨List.flatten_singleton.symm, List.forall_mem_singleton.2 (next?_eq_none_iff.1 hn)⟩
  | case2 cs e hn => cases h
  | case3 cs before tag rest hn _ e he => cases h
  | case4 cs before tag rest hn _ call he ih =>
      cases hs : scan rest with
      | error e =>
          rw [hs] at h
          cases h
      | ok p =>
          rw [hs] at h
          cases h
          obtain ⟨hprose, hpieces⟩ := ih hs
          rw [pieces_of_next? hn, List.flatten_cons, ← hprose]
          exact ⟨rfl, List.forall_mem_cons.2 ⟨not_isInfix_of_next? hn, hpieces⟩⟩

theorem isInfix_trimEnd_opening_iff : opening <:+: Text.trimEnd cs ↔ opening <:+: cs :=
  Text.isInfix_trimEnd_iff (by decide) "<function".toList

theorem isInfix_prose_iff {prose : List Char} {calls : List Invocation}
    (h : extract cs = .ok (prose, calls)) :
    opening <:+: prose ↔ Text.Spliced opening (pieces cs) := by
  rw [extract] at h
  cases hs : scan cs with
  | error e =>
      rw [hs] at h
      cases h
  | ok p =>
      obtain ⟨prose', calls'⟩ := p
      rw [hs] at h
      cases h
      obtain ⟨rfl, hpieces⟩ := prose_of_scan hs
      rw [← Text.isInfix_flatten_iff (by decide) hpieces]
      split
      · rfl
      · exact isInfix_trimEnd_opening_iff

theorem extract_prose_iff {prose : List Char} :
    extract prose = .ok (prose, []) ↔ ¬ opening <:+: prose :=
  ⟨fun he h => Nat.lt_irrefl _ (count_of_extract h he), extract_of_untagged⟩

end ChatTurn.FunctionTag
