import ChatTurn.Proofs.Tool.FunctionTag
import Mathlib.Data.List.Forall2

namespace ChatTurn.FunctionTag

/-- What opens and closes as a tag, and closes nowhere before its end. -/
structure IsTag (tag : List Char) : Prop where
  opens : opening <+: tag
  closes : closing <:+ tag
  once : ∀ u v, tag = u ++ closing ++ v → v = []

/-- Prose, and then tags with the prose after each one. -/
structure Parts where
  lead : List Char
  tagged : List (List Char × List Char)

namespace Parts

def text (d : Parts) : List Char := d.lead ++ d.tagged.flatMap fun (tag, prose) => tag ++ prose

def tags (d : Parts) : List (List Char) := d.tagged.map Prod.fst

def proses (d : Parts) : List (List Char) := d.lead :: d.tagged.map Prod.snd

/-- All prose in one, without the white space at its end if tags were taken out of it. -/
def prose (d : Parts) : List Char :=
  if d.tagged = [] then d.lead else Text.trimEnd d.proses.flatten

structure IsProper (d : Parts) : Prop where
  proses : ∀ p ∈ d.proses, ¬ opening <:+: p
  tags : ∀ t ∈ d.tags, IsTag t

def Reads (d : Parts) (calls : List Invocation) : Prop :=
  List.Forall₂ (fun tag call => parse tag = .ok call) d.tags calls

end Parts

variable {cs before tag rest lead p prose : List Char} {tagged : List (List Char × List Char)}
  {calls : List Invocation} {d d' : Parts}

theorem not_isInfix_closing {inner : List Char} (h : ¬ closing <:+: inner) :
    ¬ closing <:+: opening ++ inner := by
  have hopen : opening ++ inner = '<' :: ("function=".toList ++ inner) := rfl
  rw [hopen, List.infix_cons_iff]
  rintro (hp | hi)
  · obtain ⟨-, hp⟩ := List.cons_prefix_cons.1 hp
    exact absurd (List.cons_prefix_cons.1 hp).1 (by decide)
  · exact h ((Text.isInfix_append_iff_of_not_mem (by decide)).1 hi)

theorem isTag_iff :
    IsTag tag ↔ ∃ inner, tag = opening ++ inner ++ closing ∧ ¬ closing <:+: inner := by
  constructor
  · rintro ⟨⟨r, hr⟩, ⟨s, rfl⟩, honce⟩
    have hinner : ∃ inner, s = opening ++ inner := by
      rcases List.append_eq_append_iff.1 hr with ⟨a, rfl, -⟩ | ⟨a, ho, hc⟩
      · exact ⟨a, rfl⟩
      · -- Were `a` not empty, it would begin both with the closing marker and inside the other one.
        cases a with
        | nil => exact ⟨[], by rw [ho, List.append_nil, List.append_nil]⟩
        | cons c a =>
            obtain ⟨rfl, -⟩ := List.cons_eq_cons.1 (show '<' :: "/function>".toList = _ from hc)
            cases s with
            | nil => exact absurd (show opening <+: closing from ⟨r, by rw [hc, ho]; rfl⟩) (by decide)
            | cons e s =>
                obtain ⟨-, ho⟩ := List.cons_eq_cons.1 (show '<' :: "function=".toList = _ from ho)
                have hm : '<' ∈ "function=".toList := by
                  rw [ho]
                  exact List.mem_append_right s List.mem_cons_self
                exact absurd hm (by decide)
    obtain ⟨inner, rfl⟩ := hinner
    refine ⟨inner, rfl, ?_⟩
    rintro ⟨a, b, rfl⟩
    have hb := honce (opening ++ a) (b ++ closing) (by simp only [List.append_assoc])
    exact List.cons_ne_nil _ _ (List.append_eq_nil_iff.1 hb).2
  · rintro ⟨inner, rfl, hn⟩
    refine ⟨⟨inner ++ closing, (List.append_assoc _ _ _).symm⟩, List.suffix_append _ _, ?_⟩
    intro u v he
    have hcut : Text.cut? closing (opening ++ inner ++ closing) = some (opening ++ inner, []) := by
      have h : Text.cut? closing (opening ++ inner ++ (closing ++ [])) = some (opening ++ inner, []) :=
        Text.cut?_append_self rfl (by decide) (not_isInfix_closing hn) []
      rwa [List.append_nil] at h
    have hle := (Text.cut?_eq_some_iff.1 hcut).2 u v he
    have hl := congrArg List.length he
    simp only [List.length_append] at hl hle
    exact List.length_eq_zero_iff.1 (by omega)

/-- The next tag, by what it is and not by how it is found. -/
theorem next?_eq_ok_iff : next? cs = some (.ok (before, tag, rest)) ↔
    cs = before ++ (tag ++ rest) ∧ ¬ opening <:+: before ∧ IsTag tag := by
  constructor
  · intro h
    have hbefore := not_isInfix_of_next? h
    obtain ⟨⟨b, a⟩, hopen, he⟩ := Option.map_eq_some_iff.1 h
    dsimp only at he
    split at he
    · cases he
    · next inner r hclose =>
        cases he
        refine ⟨?_, hbefore, isTag_iff.2 ⟨inner, rfl, Text.not_isInfix_before (by decide) hclose⟩⟩
        rw [Text.eq_of_cut? hopen, Text.eq_of_cut? hclose]
        simp only [List.append_assoc]
  · rintro ⟨rfl, hbefore, htag⟩
    obtain ⟨inner, rfl, hinner⟩ := isTag_iff.1 htag
    have hopen : Text.cut? opening (before ++ (opening ++ inner ++ closing ++ rest)) =
        some (before, inner ++ (closing ++ rest)) := by
      have h : Text.cut? opening (before ++ (opening ++ (inner ++ (closing ++ rest)))) =
          some (before, inner ++ (closing ++ rest)) := Text.cut?_append_self rfl (by decide) hbefore _
      simpa only [List.append_assoc] using h
    have hclose : Text.cut? closing (inner ++ (closing ++ rest)) = some (inner, rest) :=
      Text.cut?_append_self rfl (by decide) hinner rest
    rw [next?, hopen]
    simp only [Option.map_some, hclose]

namespace Parts

theorem text_cons : text ⟨lead, (tag, p) :: tagged⟩ = lead ++ (tag ++ text ⟨p, tagged⟩) := by
  simp only [text, List.flatMap_cons, List.append_assoc]

theorem isProper_nil_iff : IsProper ⟨lead, []⟩ ↔ ¬ opening <:+: lead :=
  ⟨fun h => h.proses lead List.mem_cons_self,
    fun h => ⟨List.forall_mem_singleton.2 h, List.forall_mem_nil _⟩⟩

theorem isProper_cons_iff : IsProper ⟨lead, (tag, p) :: tagged⟩ ↔
    ¬ opening <:+: lead ∧ IsTag tag ∧ IsProper ⟨p, tagged⟩ := by
  constructor
  · rintro ⟨hp, ht⟩
    obtain ⟨hlead, hp⟩ := List.forall_mem_cons.1 hp
    obtain ⟨htag, ht⟩ := List.forall_mem_cons.1 ht
    exact ⟨hlead, htag, hp, ht⟩
  · rintro ⟨hlead, htag, hp, ht⟩
    exact ⟨List.forall_mem_cons.2 ⟨hlead, hp⟩, List.forall_mem_cons.2 ⟨htag, ht⟩⟩

theorem IsProper.next?_eq_none (h : IsProper ⟨lead, []⟩) : next? (text ⟨lead, []⟩) = none := by
  rw [next?_eq_none_iff, text, List.flatMap_nil, List.append_nil]
  exact isProper_nil_iff.1 h

theorem IsProper.next?_eq_ok (h : IsProper ⟨lead, (tag, p) :: tagged⟩) :
    next? (text ⟨lead, (tag, p) :: tagged⟩) = some (.ok (lead, tag, text ⟨p, tagged⟩)) := by
  obtain ⟨hlead, htag, -⟩ := isProper_cons_iff.1 h
  exact next?_eq_ok_iff.2 ⟨text_cons, hlead, htag⟩

theorem IsProper.unique (h : d.IsProper) (h' : d'.IsProper) (he : d.text = d'.text) : d = d' := by
  obtain ⟨lead, tagged⟩ := d
  induction tagged generalizing lead d' with
  | nil =>
      obtain ⟨lead', _ | ⟨⟨tag', p'⟩, tagged'⟩⟩ := d'
      · simp only [text, List.flatMap_nil, List.append_nil] at he
        rw [he]
      · have hn := h.next?_eq_none
        rw [he, h'.next?_eq_ok] at hn
        cases hn
  | cons x tagged ih =>
      obtain ⟨tag, p⟩ := x
      have hn := h.next?_eq_ok
      obtain ⟨lead', _ | ⟨⟨tag', p'⟩, tagged'⟩⟩ := d'
      · rw [he, h'.next?_eq_none] at hn
        cases hn
      · rw [he, h'.next?_eq_ok] at hn
        simp only [Option.some.injEq, Except.ok.injEq, Prod.mk.injEq] at hn
        obtain ⟨rfl, rfl, ht⟩ := hn
        cases ih (isProper_cons_iff.1 h').2.2 p (isProper_cons_iff.1 h).2.2 ht.symm
        rfl

end Parts

theorem scan_eq_ok_iff : scan cs = .ok (prose, calls) ↔
    ∃ d : Parts, d.text = cs ∧ d.IsProper ∧ d.Reads calls ∧ prose = d.proses.flatten := by
  constructor
  · intro h
    fun_induction scan cs generalizing prose calls with
    | case1 cs hn =>
        cases h
        refine ⟨⟨cs, []⟩, List.append_nil _, ?_, List.Forall₂.nil, (List.append_nil _).symm⟩
        exact Parts.isProper_nil_iff.2 (next?_eq_none_iff.1 hn)
    | case2 cs e hn => cases h
    | case3 cs before tag rest hn _ e he => cases h
    | case4 cs before tag rest hn _ call hc ih =>
        cases hs : scan rest with
        | error e =>
            rw [hs] at h
            cases h
        | ok r =>
            rw [hs] at h
            cases h
            obtain ⟨⟨p, tagged⟩, rfl, hd, hr, hp⟩ := ih hs
            obtain ⟨rfl, hbefore, htag⟩ := next?_eq_ok_iff.1 hn
            refine ⟨⟨before, (tag, p) :: tagged⟩, Parts.text_cons, ?_, List.Forall₂.cons hc hr, ?_⟩
            · exact Parts.isProper_cons_iff.2 ⟨hbefore, htag, hd⟩
            · rw [hp]
              rfl
  · rintro ⟨⟨lead, tagged⟩, rfl, hd, hr, rfl⟩
    induction tagged generalizing lead calls with
    | nil =>
        cases hr
        rw [scan_of_untagged]
        · simp [Parts.text, Parts.proses]
        · exact next?_eq_none_iff.1 hd.next?_eq_none
    | cons x tagged ih =>
        obtain ⟨tag, p⟩ := x
        obtain _ | ⟨hc, hr⟩ := hr
        rw [scan_of_next? hd.next?_eq_ok, hc]
        simp only [ih p (Parts.isProper_cons_iff.1 hd).2.2 hr]
        rfl

theorem raw_of_parse {e : MalformedCall} (h : parse tag = .error e) : e.raw = String.ofList tag := by
  unfold parse Except.mapError at h
  split at h
  · cases h
    rfl
  · cases h

theorem raw_of_scan {e : MalformedCall} (h : scan cs = .error e) : e.raw.toList <:+: cs := by
  fun_induction scan cs with
  | case1 cs hn => cases h
  | case2 cs e' hn =>
      cases h
      obtain ⟨⟨b, a⟩, hopen, he⟩ := Option.map_eq_some_iff.1 hn
      dsimp only at he
      split at he
      · cases he
        rw [String.toList_ofList, Text.eq_of_cut? hopen, List.append_assoc]
        exact (List.suffix_append b _).isInfix
      · cases he
  | case3 cs before tag rest hn _ e' he =>
      cases h
      obtain ⟨rfl, -, -⟩ := next?_eq_ok_iff.1 hn
      rw [raw_of_parse he, String.toList_ofList]
      exact ⟨before, rest, by simp only [List.append_assoc]⟩
  | case4 cs before tag rest hn _ call hc ih =>
      obtain ⟨rfl, -, -⟩ := next?_eq_ok_iff.1 hn
      cases hs : scan rest with
      | ok r =>
          rw [hs] at h
          cases h
      | error e' =>
          rw [hs] at h
          cases h
          rw [← List.append_assoc]
          exact List.infix_append_of_infix_right (ih hs)

theorem extract_eq_ok_iff : extract cs = .ok (prose, calls) ↔
    ∃ d : Parts, d.text = cs ∧ d.IsProper ∧ d.Reads calls ∧ prose = d.prose := by
  -- There are as many calls as tags, so that the scan and the parts agree on what is trimmed.
  have hprose : ∀ {d : Parts} {calls}, d.Reads calls →
      (if calls.isEmpty then d.proses.flatten else Text.trimEnd d.proses.flatten) = d.prose := by
    rintro ⟨lead, _ | ⟨x, tagged⟩⟩ calls hr
    · cases hr
      exact List.append_nil lead
    · cases hr
      rfl
  constructor
  · intro h
    rw [extract] at h
    cases hs : scan cs with
    | error e =>
        rw [hs] at h
        cases h
    | ok r =>
        rw [hs] at h
        cases h
        obtain ⟨d, ht, hd, hr, he⟩ := scan_eq_ok_iff.1 hs
        exact ⟨d, ht, hd, hr, he ▸ hprose hr⟩
  · rintro ⟨d, ht, hd, hr, rfl⟩
    rw [extract, scan_eq_ok_iff.2 ⟨d, ht, hd, hr, rfl⟩, ← hprose hr]
    rfl

/-- Text is taken apart into prose and calls just where it falls into proper parts whose tags are
calls, and then as these parts say, which are the only ones. Any other text is refused as a whole. -/
theorem extract_iff_parts (cs : List Char) :
    (∀ prose calls, extract cs = .ok (prose, calls) ↔
      ∃ d : Parts, d.text = cs ∧ d.IsProper ∧ d.Reads calls ∧ prose = d.prose) ∧
    Subsingleton {d : Parts // d.text = cs ∧ d.IsProper} ∧
    ((∃ e, extract cs = .error e ∧ e.raw.toList <:+: cs) ↔
      ¬ ∃ d calls, Parts.text d = cs ∧ d.IsProper ∧ d.Reads calls) := by
  refine ⟨fun _ _ => extract_eq_ok_iff, ?_, ?_, ?_⟩
  · constructor
    rintro ⟨d, ht, hd⟩ ⟨d', ht', hd'⟩
    exact Subtype.ext (hd.unique hd' (ht.trans ht'.symm))
  · rintro ⟨e, he, -⟩ ⟨d, calls, ht, hd, hr⟩
    rw [extract_eq_ok_iff.2 ⟨d, ht, hd, hr, rfl⟩] at he
    cases he
  · intro hn
    cases hs : scan cs with
    | error e => exact ⟨e, by rw [extract, hs]; rfl, raw_of_scan hs⟩
    | ok r =>
        obtain ⟨d, ht, hd, hr, -⟩ := scan_eq_ok_iff.1 hs
        exact absurd ⟨d, r.2, ht, hd, hr⟩ hn

end ChatTurn.FunctionTag
