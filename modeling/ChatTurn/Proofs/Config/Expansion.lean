import ChatTurn.Proofs.Config.Placeholder
import ChatTurn.Proofs.Outcomes
import ChatTurn.Proofs.Text.Split

namespace ChatTurn.Placeholder

/-- A character that stays, or a placeholder in its written form. -/
inductive Segment
  | plain (c : Char)
  | place (p : Placeholder) (written : List Char)

namespace Segment

def text : Segment → List Char
  | plain c => [c]
  | place _ written => written

/-- What stands for a segment after the expansion. -/
inductive Becomes (env : Environment) : Segment → List Char → Prop
  | plain (c : Char) : Becomes env (.plain c) [c]
  | value {name written : List Char} {default : Option (List Char)} {v : String}
      (hn : '.' ∉ name) (hv : env (String.ofList name) = some v) :
      Becomes env (.place ⟨"env.".toList ++ name, default⟩ written) v.toList
  | default {name text written : List Char} (hn : '.' ∉ name)
      (hv : env (String.ofList name) = none) :
      Becomes env (.place ⟨"env.".toList ++ name, some text⟩ written) text

inductive Fails (env : Environment) : Segment → PlaceholderFault → Prop
  | scope {p : Placeholder} {written : List Char}
      (h : ∀ name, p.key = "env.".toList ++ name → '.' ∈ name) :
      Fails env (.place p written) (.scope (String.ofList p.key))
  | unset {name written : List Char} (hn : '.' ∉ name) (hv : env (String.ofList name) = none) :
      Fails env (.place ⟨"env.".toList ++ name, none⟩ written) (.unset (String.ofList name))

def value (env : Environment) : Segment → Except PlaceholderFault (List Char)
  | plain c => .ok [c]
  | place p _ => p.resolve env

def values (env : Environment) (segments : List Segment) : Except PlaceholderFault (List Char) :=
  (segments.mapM (value env)).map List.flatten

def Become (env : Environment) (segments : List Segment) (out : List Char) : Prop :=
  ∃ vs, List.Forall₂ (Becomes env) segments vs ∧ out = vs.flatten

end Segment

/-- A line in segments. Where a character stays, no placeholder could begin. -/
structure IsCut (line : List Char) (segments : List Segment) : Prop where
  text : segments.flatMap Segment.text = line
  spelled : ∀ p t, Segment.place p t ∈ segments → Spells p t
  leftmost : ∀ before c after, segments = before ++ .plain c :: after →
    ∀ p t, Spells p t → ¬ t <+: c :: after.flatMap Segment.text

inductive ReadsLine : List Char → List Segment → Prop
  | comment {line : List Char} (h : isComment line = true) : ReadsLine line (line.map .plain)
  | other {line : List Char} {segments : List Segment} (h : isComment line = false)
      (hc : IsCut line segments) : ReadsLine line segments

/-- Lines without line feeds, with a line feed between any two, each read by itself. -/
inductive Reads : List Char → List (List Segment) → Prop
  | lines {lines : List (List Char)} {segments : List (List Segment)} (hne : lines ≠ [])
      (hn : ∀ line ∈ lines, '\n' ∉ line) (h : List.Forall₂ ReadsLine lines segments) :
      Reads (Text.joinWith '\n' lines) segments

variable {env : Environment} {s : Segment} {v cs rest line t text : List Char} {c : Char}
  {f : PlaceholderFault} {p : Placeholder} {segments segments' : List Segment}
  {lines lines' : List (List Segment)}

theorem resolve_of_scope (h : ∀ name, p.key = "env.".toList ++ name → '.' ∈ name) :
    p.resolve env = .error (.scope (String.ofList p.key)) := by
  have hn : (Text.stripStart? "env.".toList p.key).filter ('.' ∉ ·) = none := by
    rw [Option.filter_eq_none_iff]
    intro name hname
    simpa using h name (Text.stripStart?_eq_some_iff.1 hname)
  rw [resolve, hn]

theorem resolve_named {name : List Char} (hn : '.' ∉ name) (default : Option (List Char)) :
    resolve env ⟨"env.".toList ++ name, default⟩ = match env (String.ofList name), default with
      | some value, _ => .ok value.toList
      | none, some text => .ok text
      | none, none => .error (.unset (String.ofList name)) := by
  have hs : (Text.stripStart? "env.".toList ("env.".toList ++ name)).filter ('.' ∉ ·) = some name := by
    rw [Text.stripStart?_eq_some_iff.2 rfl]
    simp [hn]
  unfold resolve
  split
  · next h => cases hs.symm.trans h
  · next n h =>
      cases hs.symm.trans h
      rfl

theorem value_cases (env : Environment) (s : Segment) :
    (∃ v, s.value env = .ok v ∧ s.Becomes env v) ∨
      ∃ f, s.value env = .error f ∧ s.Fails env f := by
  cases s with
  | plain c => exact .inl ⟨[c], rfl, .plain c⟩
  | place p t =>
      by_cases h : ∀ name, p.key = "env.".toList ++ name → '.' ∈ name
      · exact .inr ⟨_, resolve_of_scope h, .scope h⟩
      · obtain ⟨name, hkey, hn⟩ : ∃ name, p.key = "env.".toList ++ name ∧ '.' ∉ name := by
          simpa only [not_forall, exists_prop] using h
        obtain ⟨key, default⟩ := p
        cases hkey
        have hr : resolve env ⟨"env.".toList ++ name, default⟩ = _ := resolve_named hn default
        cases hv : env (String.ofList name) with
        | some value =>
            rw [hv] at hr
            exact .inl ⟨_, hr, .value hn hv⟩
        | none =>
            rw [hv] at hr
            cases default with
            | some text => exact .inl ⟨_, hr, .default hn hv⟩
            | none => exact .inr ⟨_, hr, .unset hn hv⟩

theorem Segment.Becomes.value_eq (h : s.Becomes env v) : s.value env = .ok v := by
  cases h with
  | plain c => rfl
  | value hn hv => exact (resolve_named hn _).trans (by rw [hv])
  | default hn hv => exact (resolve_named hn _).trans (by rw [hv])

theorem Segment.Fails.value_eq (h : s.Fails env f) : s.value env = .error f := by
  cases h with
  | scope h => exact resolve_of_scope h
  | unset hn hv => exact (resolve_named hn _).trans (by rw [hv])

theorem value_eq_ok_iff : s.value env = .ok v ↔ s.Becomes env v := by
  refine ⟨fun h => ?_, Segment.Becomes.value_eq⟩
  rcases value_cases env s with ⟨w, hw, hb⟩ | ⟨g, hg, -⟩
  · cases h.symm.trans hw
    exact hb
  · cases h.symm.trans hg

theorem value_eq_error_iff : s.value env = .error f ↔ s.Fails env f := by
  refine ⟨fun h => ?_, Segment.Fails.value_eq⟩
  rcases value_cases env s with ⟨w, hw, -⟩ | ⟨g, hg, hb⟩
  · cases h.symm.trans hw
  · cases h.symm.trans hg
    exact hb

theorem isCut_nil : IsCut [] [] :=
  ⟨rfl, fun _ _ h => (by cases h), fun before _ _ h => (by cases before <;> cases h)⟩

theorem isCut_plain_iff : IsCut (c :: cs) (.plain c :: segments) ↔
    read? (c :: cs) = none ∧ IsCut cs segments := by
  rw [read?_eq_none_iff]
  constructor
  · rintro ⟨ht, hs, hl⟩
    obtain rfl : segments.flatMap Segment.text = cs := List.cons.inj ht |>.2
    refine ⟨hl [] c segments rfl, rfl, fun p t h => hs p t (List.mem_cons_of_mem _ h), ?_⟩
    exact fun before d after h => hl (.plain c :: before) d after (congrArg (.plain c :: ·) h)
  · rintro ⟨hn, rfl, hs, hl⟩
    refine ⟨rfl, fun p t h => ?_, fun before d after h => ?_⟩
    · rcases List.mem_cons.1 h with h | h
      · cases h
      · exact hs p t h
    · cases before with
      | nil =>
          cases h
          exact hn
      | cons b before => exact hl before d after (List.cons.inj h).2

theorem isCut_place_iff : IsCut line (.place p t :: segments) ↔
    Spells p t ∧ ∃ rest, line = t ++ rest ∧ IsCut rest segments := by
  constructor
  · rintro ⟨ht, hs, hl⟩
    refine ⟨hs p t List.mem_cons_self, _, ht.symm, rfl,
      fun q u h => hs q u (List.mem_cons_of_mem _ h), ?_⟩
    exact fun before d after h => hl (.place p t :: before) d after (congrArg (.place p t :: ·) h)
  · rintro ⟨hp, rest, rfl, rfl, hs, hl⟩
    refine ⟨rfl, fun q u h => ?_, fun before d after h => ?_⟩
    · rcases List.mem_cons.1 h with h | h
      · cases h
        exact hp
      · exact hs q u h
    · cases before with
      | nil => cases h
      | cons b before => exact hl before d after (List.cons.inj h).2

theorem Spells.ne_nil (h : Spells p t) : t ≠ [] := by
  cases h
  exact List.cons_ne_nil _ _

theorem IsCut.unique (h : IsCut line segments) (h' : IsCut line segments') :
    segments = segments' := by
  induction segments generalizing line segments' with
  | nil =>
      obtain rfl : [] = line := h.text
      cases segments' with
      | nil => rfl
      | cons s segments' =>
          cases s with
          | plain c => cases h'.text
          | place p t =>
              obtain ⟨hp, rest, he, -⟩ := isCut_place_iff.1 h'
              exact absurd (List.append_eq_nil_iff.1 he.symm).1 hp.ne_nil
  | cons s segments ih =>
      cases s with
      | plain c =>
          have hline : line = c :: segments.flatMap Segment.text := h.text.symm
          subst hline
          obtain ⟨hn, hrest⟩ := isCut_plain_iff.1 h
          cases segments' with
          | nil => cases h'.text
          | cons s' segments' =>
              cases s' with
              | plain c' =>
                  obtain rfl : c' = c := (List.cons.inj h'.text).1
                  rw [ih hrest (isCut_plain_iff.1 h').2]
              | place p t =>
                  obtain ⟨hp, rest, he, -⟩ := isCut_place_iff.1 h'
                  exact absurd ⟨rest, he.symm⟩ (read?_eq_none_iff.1 hn p t hp)
      | place p t =>
          obtain ⟨hp, rest, rfl, hrest⟩ := isCut_place_iff.1 h
          cases segments' with
          | nil =>
              exact absurd (List.append_eq_nil_iff.1 h'.text.symm).1 hp.ne_nil
          | cons s' segments' =>
              cases s' with
              | plain c' =>
                  exact absurd ⟨rest, h'.text.symm⟩ (h'.leftmost [] c' segments' rfl p t hp)
              | place p' t' =>
                  obtain ⟨hp', rest', he, hrest'⟩ := isCut_place_iff.1 h'
                  have hread := read?_of_spells hp rest
                  rw [he, read?_of_spells hp' rest'] at hread
                  cases hread
                  rw [List.append_cancel_right he, ih hrest hrest']

theorem exists_cut {fuel : Nat} (hf : line.length ≤ fuel) : ∃ segments, IsCut line segments ∧
    ∀ env, expandLine env fuel line = Segment.values env segments := by
  induction fuel generalizing line with
  | zero =>
      obtain rfl := List.length_eq_zero_iff.1 (Nat.le_zero.1 hf)
      exact ⟨[], isCut_nil, fun _ => rfl⟩
  | succ fuel ih =>
      cases line with
      | nil => exact ⟨[], isCut_nil, fun _ => rfl⟩
      | cons c cs =>
          rw [List.length_cons] at hf
          cases hr : read? (c :: cs) with
          | none =>
              obtain ⟨segments, hc, he⟩ := ih (show cs.length ≤ fuel by omega)
              refine ⟨.plain c :: segments, isCut_plain_iff.2 ⟨hr, hc⟩, fun env => ?_⟩
              rw [expandLine, hr, Segment.values, List.mapM_cons]
              simp only [he, Segment.values]
              cases segments.mapM (Segment.value env) <;> rfl
          | some r =>
              obtain ⟨p, rest⟩ := r
              obtain ⟨t, hp, ht⟩ := exists_of_read? hr
              have hlen := congrArg List.length ht
              have hpos := List.length_pos_iff.2 hp.ne_nil
              rw [List.length_append, List.length_cons] at hlen
              obtain ⟨segments, hc, he⟩ := ih (show rest.length ≤ fuel by omega)
              refine ⟨.place p t :: segments, isCut_place_iff.2 ⟨hp, rest, ht, hc⟩, fun env => ?_⟩
              rw [expandLine, hr, Segment.values, List.mapM_cons, Segment.value]
              simp only [he, Segment.values]
              cases p.resolve env with
              | error f => rfl
              | ok v => cases segments.mapM (Segment.value env) <;> rfl

def expandOne (env : Environment) (line : List Char) : Except PlaceholderFault (List Char) :=
  if isComment line then .ok line else expandLine env line.length line

theorem expandLines_eq (env : Environment) (lines : List (List Char)) :
    expandLines env lines = lines.mapM (expandOne env) := by
  induction lines with
  | nil => rfl
  | cons line lines ih =>
      rw [expandLines, List.mapM_cons, ih, expandOne]
      cases isComment line <;> rfl

theorem values_plain (env : Environment) (line : List Char) :
    Segment.values env (line.map .plain) = .ok line := by
  rw [Segment.values, map_eq_ok_iff]
  refine ⟨line.map fun c => [c], ?_, by rw [← List.flatMap_def, List.flatMap_singleton']⟩
  rw [mapM_eq_ok_iff, List.forall₂_map_left_iff, List.forall₂_map_right_iff]
  exact List.forall₂_same.2 fun _ _ => rfl

theorem exists_readsLine (line : List Char) : ∃ segments, ReadsLine line segments ∧
    ∀ env, expandOne env line = Segment.values env segments := by
  by_cases h : isComment line = true
  · refine ⟨_, .comment h, fun env => ?_⟩
    rw [expandOne, if_pos h, values_plain]
  · obtain ⟨segments, hc, he⟩ := exists_cut (Nat.le_refl line.length)
    refine ⟨segments, .other (Bool.eq_false_iff.2 h) hc, fun env => ?_⟩
    rw [expandOne, if_neg h, he]

theorem ReadsLine.unique (h : ReadsLine line segments) (h' : ReadsLine line segments') :
    segments = segments' := by
  cases h with
  | comment h =>
      cases h' with
      | comment => rfl
      | other h' => exact Bool.noConfusion (h.symm.trans h')
  | other h hc =>
      cases h' with
      | comment h' => exact Bool.noConfusion (h'.symm.trans h)
      | other h' hc' => exact hc.unique hc'

theorem exists_reads (text : List Char) : ∃ lines, Reads text lines ∧ ∀ env,
    expand env text = (lines.mapM (Segment.values env)).map (Text.joinWith '\n') := by
  obtain ⟨lines, hlines, he⟩ : ∃ lines, List.Forall₂ ReadsLine (Text.splitOn '\n' text) lines ∧
      ∀ env, (Text.splitOn '\n' text).mapM (expandOne env) = lines.mapM (Segment.values env) := by
    induction Text.splitOn '\n' text with
    | nil => exact ⟨[], .nil, fun _ => rfl⟩
    | cons line rest ih =>
        obtain ⟨lines, hlines, he⟩ := ih
        obtain ⟨segments, hs, hv⟩ := exists_readsLine line
        refine ⟨segments :: lines, .cons hs hlines, fun env => ?_⟩
        rw [List.mapM_cons, List.mapM_cons, hv, he]
  refine ⟨lines, ?_, fun env => by rw [expand, expandLines_eq, he]⟩
  have hr := Reads.lines (Text.splitOn_ne_nil '\n' text)
    (fun _ => Text.notMem_of_mem_splitOn) hlines
  rwa [Text.joinWith_splitOn] at hr

theorem Reads.unique (h : Reads text lines) (h' : Reads text lines') : lines = lines' := by
  obtain @⟨parts, _, hne, hn, hl⟩ := h
  generalize htext : Text.joinWith '\n' parts = text at h'
  obtain @⟨parts', _, hne', hn', hl'⟩ := h'
  obtain rfl : parts = parts' := by
    rw [← Text.splitOn_joinWith hne hn, htext, Text.splitOn_joinWith hne' hn']
  clear htext hne hn hne' hn'
  induction hl generalizing lines' with
  | nil => exact (List.forall₂_nil_left_iff.1 hl').symm
  | cons hs _ ih =>
      cases hl' with
      | cons hs' hl' => rw [hs.unique hs', ih hl']

theorem values_eq_ok_iff {out : List Char} :
    Segment.values env segments = .ok out ↔ Segment.Become env segments out := by
  simp only [Segment.values, Segment.Become, map_eq_ok_iff, mapM_eq_ok_iff, value_eq_ok_iff,
    eq_comm (a := out)]

theorem mapM_values_eq_error_iff :
    lines.mapM (Segment.values env) = .error f ↔
      lines.flatten.mapM (Segment.value env) = .error f := by
  induction lines with
  | nil => rfl
  | cons segments lines ih =>
      rw [List.mapM_cons, List.flatten_cons, List.mapM_append, Segment.values]
      cases segments.mapM (Segment.value env) with
      | error g => exact Iff.rfl
      | ok vs =>
          revert ih
          cases lines.mapM (Segment.values env) <;>
            cases lines.flatten.mapM (Segment.value env) <;>
            simp [bind, Except.bind, Except.map, pure, Except.pure]

theorem become_forall₂_iff {outs : List (List Char)} :
    List.Forall₂ (Segment.Become env) lines outs ↔ lines.mapM (Segment.values env) = .ok outs := by
  rw [mapM_eq_ok_iff]
  simp only [values_eq_ok_iff]

theorem expand_eq_ok_iff {out : List Char} (h : Reads text lines) : expand env text = .ok out ↔
    ∃ outs, List.Forall₂ (Segment.Become env) lines outs ∧ out = Text.joinWith '\n' outs := by
  obtain ⟨lines', hr, he⟩ := exists_reads text
  obtain rfl := h.unique hr
  rw [he]
  simp only [map_eq_ok_iff, become_forall₂_iff, eq_comm (a := out)]

theorem expand_eq_error_iff (h : Reads text lines) : expand env text = .error f ↔
    lines.flatten.mapM (Segment.value env) = .error f := by
  obtain ⟨lines', hr, he⟩ := exists_reads text
  obtain rfl := h.unique hr
  rw [he, ← mapM_values_eq_error_iff]
  cases lines.mapM (Segment.values env) <;> simp [Except.map]

/-- Each text has just one reading, the same for all environments. The expansion succeeds just if
every segment has a value, and these stand in their places; otherwise the fault is that of the
first segment that has none. -/
theorem expand_exact (text : List Char) : ∃ lines, (∀ lines', Reads text lines' ↔ lines' = lines) ∧
    ∀ env,
      (∀ out, expand env text = .ok out ↔
        ∃ outs, List.Forall₂ (Segment.Become env) lines outs ∧ out = Text.joinWith '\n' outs) ∧
      (∀ f, expand env text = .error f ↔ ∃ before s after, lines.flatten = before ++ s :: after ∧
        (∀ x ∈ before, ∃ v, Segment.Becomes env x v) ∧ Segment.Fails env s f) ∧
      ((∃ f, expand env text = .error f) ↔ ∃ s ∈ lines.flatten, ∃ f, Segment.Fails env s f) := by
  obtain ⟨lines, hr, -⟩ := exists_reads text
  refine ⟨lines, fun lines' => ⟨fun h => h.unique hr, fun h => h ▸ hr⟩, fun env => ?_⟩
  refine ⟨fun out => expand_eq_ok_iff hr, fun f => ?_, ?_⟩
  · rw [expand_eq_error_iff hr, mapM_eq_error_iff]
    simp only [value_eq_ok_iff, value_eq_error_iff]
  · simp only [expand_eq_error_iff hr, exists_mapM_eq_error_iff, value_eq_error_iff]

end ChatTurn.Placeholder
