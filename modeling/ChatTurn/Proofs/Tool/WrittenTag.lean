import ChatTurn.Proofs.Tool.Expression
import ChatTurn.Proofs.Tool.FunctionTag
import ChatTurn.Proofs.Tool.WrittenJson

namespace ChatTurn

/-- The call can be named in a tag, and its arguments can be written and read. -/
structure Invocation.IsTaggable (i : Invocation) : Prop where
  named : isToolName i.name.text.toList = true
  canonical : i.name.IsCanonical
  fits : (Argument.map i.arguments).Fits 0

namespace FunctionTag

variable {i : Invocation} {cs p rest : List Char} {items : List (Invocation × List Char)}

def inner (i : Invocation) : List Char :=
  i.name.text.toList ++ ['>'] ++ (Arguments.toJson i.arguments).write

def text (i : Invocation) : List Char := opening ++ inner i ++ closing

/-- A string of the arguments holds the marker that closes a tag. -/
def HoldsClosing (i : Invocation) : Prop :=
  ∃ s ∈ (Arguments.toJson i.arguments).texts, closing <:+: s.toList

def written (p : List Char) : List (Invocation × List Char) → List Char
  | [] => p
  | (i, q) :: items => p ++ (text i ++ written q items)

theorem opening_eq : opening = '<' :: "function=".toList := rfl

theorem closing_eq : closing = '<' :: "/function>".toList := rfl

theorem not_mem_name (h : i.IsTaggable) : '<' ∉ i.name.text.toList ++ ['>'] := by
  have hname := not_mem_of_isToolName h.named (c := '<') (by decide)
  simp [hname]

theorem isInfix_closing_inner_iff (h : i.IsTaggable) : closing <:+: inner i ↔ HoldsClosing i := by
  have hall : ('<' :: "/function>".toList).all (fun c => Json.Writer.escape c == [c]) = true := rfl
  have hescape := fun c hc => eq_of_beq (List.all_eq_true.1 hall c hc)
  have hshows := ((Arguments.toJson i.arguments).strand 0).shows hescape []
  rw [inner, HoldsClosing, closing_eq, Text.isInfix_append_iff_of_not_mem (not_mem_name h)]
  rw [List.append_nil] at hshows
  rw [hshows]
  simp

theorem parse_of_inner (cs : List Char) : parse (opening ++ cs ++ closing) =
    Except.mapError (⟨String.ofList (opening ++ cs ++ closing), ·⟩) (ofInner cs) := by
  have ho : Text.IsTight opening := ⟨⟨'<', rfl, rfl⟩, ⟨'=', rfl, rfl⟩⟩
  have hc : Text.IsTight closing := ⟨⟨'<', rfl, rfl⟩, ⟨'>', rfl, rfl⟩⟩
  have htrim : Text.trim (opening ++ cs ++ closing) = opening ++ (cs ++ closing) := by
    rw [List.append_assoc]
    exact (ho.around hc cs).trim
  have hstart : Text.stripStart? opening (opening ++ (cs ++ closing)) = some (cs ++ closing) :=
    Text.stripStart?_eq_some_iff.2 rfl
  rw [parse, htrim, hstart, Option.bind_some, Text.stripEnd?_append]

theorem ofInner_named (h : i.IsTaggable) (body : List Char) :
    ofInner (i.name.text.toList ++ ['>'] ++ body) =
      (Arguments.parse body).map (⟨i.name, ·⟩) := by
  have hcut := Text.cut?_singleton (not_mem_of_isToolName h.named (c := '>') (by decide)) body
  have hparse : ToolName.parse i.name.text = i.name := h.canonical
  rw [ofInner, List.append_assoc, List.singleton_append, hcut]
  simp only [(isTight_of_isToolName h.named).trim, h.named, String.ofList_toList, hparse]
  rfl

theorem parse_text (h : i.IsTaggable) : parse (text i) = .ok i := by
  have htrim : Text.trim (Arguments.toJson i.arguments).write =
      (Arguments.toJson i.arguments).write := (Json.Value.isTight_write_object _).trim
  have hne : (Arguments.toJson i.arguments).write.isEmpty = false :=
    List.isEmpty_eq_false_iff.2 (Arguments.toJson i.arguments).write_ne_nil
  have hvalue : Json.parseValue? (Arguments.toJson i.arguments).write =
      some (.object (Argument.toMembers i.arguments)) := h.fits.parseValue?
  have hmembers : Argument.ofMembers (Argument.toMembers i.arguments) = i.arguments :=
    Argument.map.inj h.fits.stays.2
  rw [text, parse_of_inner, inner, ofInner_named h, Arguments.parse]
  simp only [htrim, hne, hvalue, hmembers]
  rfl

/-- What is left of the arguments before a closing marker in them cannot be read. -/
theorem parse_of_cut (h : i.IsTaggable) {a b : List Char}
    (hcut : (Arguments.toJson i.arguments).write = a ++ closing ++ b) :
    ∃ e, parse (opening ++ (i.name.text.toList ++ ['>'] ++ a) ++ closing) = .error e := by
  have hnone : Json.parse? (Text.trim a) = none := by
    refine Json.parse?_of_cut (v := Arguments.toJson i.arguments) (b := "/function>".toList ++ b) ?_
    rw [hcut, List.append_assoc]
    rfl
  have hbrace : '\x7b' ∈ a := by
    have hhead : (a ++ closing ++ b).head? = some '\x7b' :=
      hcut ▸ Json.Value.head?_write_object (Argument.toMembers i.arguments)
    cases a with
    | nil => cases hhead
    | cons c a =>
        cases hhead
        exact List.mem_cons_self
  have hne : (Text.trim a).isEmpty = false := by
    rw [List.isEmpty_eq_false_iff]
    intro hnil
    obtain ⟨before, after, he, hb, ha⟩ := Text.exists_eq_append_trim a
    rw [hnil, List.nil_append] at he
    have hwhite := List.forall_mem_append.2 ⟨hb, ha⟩ '\x7b' (he ▸ hbrace)
    exact absurd hwhite (by decide)
  have hvalue : Json.parseValue? (Text.trim a) = none := by
    rw [Json.parseValue?, hnone]
    rfl
  rw [parse_of_inner, ofInner_named h, Arguments.parse]
  simp only [hne, hvalue]
  exact ⟨_, rfl⟩

theorem cut?_opening_written (hp : ¬ opening <:+: p) (rest : List Char) :
    Text.cut? opening (p ++ (text i ++ rest)) = some (p, inner i ++ closing ++ rest) := by
  rw [text, List.append_assoc opening, List.append_assoc opening]
  exact Text.cut?_append_self opening_eq (by decide) hp _

theorem next?_of_not_holdsClosing (h : i.IsTaggable) (hp : ¬ opening <:+: p)
    (hc : ¬ HoldsClosing i) (rest : List Char) :
    next? (p ++ (text i ++ rest)) = some (.ok (p, text i, rest)) := by
  have hnot : ¬ closing <:+: inner i := mt (isInfix_closing_inner_iff h).1 hc
  have hcut : Text.cut? closing (inner i ++ closing ++ rest) = some (inner i, rest) := by
    rw [List.append_assoc]
    exact Text.cut?_append_self closing_eq (by decide) hnot rest
  rw [next?, cut?_opening_written hp, Option.map_some]
  simp only [hcut]
  rfl

theorem exists_next?_of_holdsClosing (h : i.IsTaggable) (hp : ¬ opening <:+: p)
    (hc : HoldsClosing i) (rest : List Char) :
    ∃ tag rest' e, next? (p ++ (text i ++ rest)) = some (.ok (p, tag, rest')) ∧
      parse tag = .error e := by
  have hwrite : Text.cut? closing (inner i) =
      (Text.cut? closing (Arguments.toJson i.arguments).write).map fun q =>
        (i.name.text.toList ++ ['>'] ++ q.1, q.2) :=
    Text.cut?_append_of_head_not_mem (not_mem_name h) _ _
  obtain ⟨before, after, hcut⟩ := Text.exists_cut? ((isInfix_closing_inner_iff h).2 hc)
  rw [hcut] at hwrite
  obtain ⟨⟨a, b⟩, hab, he⟩ := Option.map_eq_some_iff.1 hwrite.symm
  cases he
  obtain ⟨e, herror⟩ := parse_of_cut h (Text.eq_of_cut? hab)
  refine ⟨_, b ++ (closing ++ rest), e, ?_, herror⟩
  have hmore := Text.cut?_append_of_eq_some hcut (closing ++ rest)
  rw [← List.append_assoc] at hmore
  rw [next?, cut?_opening_written hp, Option.map_some]
  simp only [hmore]

theorem scan_written (hp : ∀ q ∈ p :: items.map Prod.snd, ¬ opening <:+: q)
    (hi : ∀ c ∈ items, c.1.IsTaggable) :
    ((∀ c ∈ items, ¬ HoldsClosing c.1) →
      scan (written p items) = .ok (p ++ (items.map Prod.snd).flatten, items.map Prod.fst)) ∧
    ((∃ c ∈ items, HoldsClosing c.1) → ∃ e, scan (written p items) = .error e) := by
  induction items generalizing p with
  | nil =>
      obtain ⟨hp, -⟩ := List.forall_mem_cons.1 hp
      refine ⟨fun _ => ?_, ?_⟩
      · rw [written, scan_of_untagged hp]
        simp
      · rintro ⟨c, hc, -⟩
        cases hc
  | cons c items ih =>
      obtain ⟨i, q⟩ := c
      obtain ⟨hp, hq⟩ := List.forall_mem_cons.1 hp
      obtain ⟨hi, hitems⟩ := List.forall_mem_cons.1 hi
      obtain ⟨hgood, hbad⟩ := ih hq hitems
      by_cases hc : HoldsClosing i
      · refine ⟨fun hn => absurd hc (hn _ List.mem_cons_self), fun _ => ?_⟩
        obtain ⟨tag, rest, e, hnext, he⟩ := exists_next?_of_holdsClosing hi hp hc (written q items)
        rw [written, scan_of_next? hnext, he]
        exact ⟨e, rfl⟩
      · have hnext := next?_of_not_holdsClosing hi hp hc (written q items)
        rw [written, scan_of_next? hnext, parse_text hi]
        refine ⟨fun hn => ?_, ?_⟩
        · rw [hgood (List.forall_mem_cons.1 hn).2]
          simp [Except.map]
        · rintro ⟨d, hd, hdc⟩
          rcases List.mem_cons.1 hd with rfl | hd
          · exact absurd hdc hc
          · obtain ⟨e, he⟩ := hbad ⟨d, hd, hdc⟩
            rw [he]
            exact ⟨e, rfl⟩

/-- Every tag by itself is read as its call. In prose all of them are, in order, with the prose left
over, just where no string of their arguments holds a closing marker; otherwise the text is refused. -/
theorem extract_written (hp : ∀ q ∈ p :: items.map Prod.snd, ¬ opening <:+: q)
    (hi : ∀ c ∈ items, c.1.IsTaggable) :
    (∀ c ∈ items, parse (text c.1) = .ok c.1) ∧
    ((∀ c ∈ items, ¬ HoldsClosing c.1) → extract (written p items) =
      .ok (if items = [] then p else Text.trimEnd (p ++ (items.map Prod.snd).flatten),
        items.map Prod.fst)) ∧
    ((∃ c ∈ items, HoldsClosing c.1) → ∃ e, extract (written p items) = .error e) := by
  obtain ⟨hgood, hbad⟩ := scan_written hp hi
  refine ⟨fun c hc => parse_text (hi c hc), fun h => ?_, fun h => ?_⟩
  · rw [extract, hgood h]
    cases items with
    | nil => simp [Except.map]
    | cons c items => rfl
  · obtain ⟨e, he⟩ := hbad h
    rw [extract, he]
    exact ⟨e, rfl⟩

def quotingCall : Invocation := ⟨.custom "f", [("x", .string "<b>\"\n\"</b>")]⟩

theorem isTaggable_quotingCall : quotingCall.IsTaggable :=
  ⟨by decide, show ToolName.parse "f" = .custom "f" by decide,
    .map (by decide) (by decide) (List.forall_mem_singleton.2 (.string _))⟩

theorem extract_written_quotingCall :
    parse (text quotingCall) = .ok quotingCall ∧
    extract (written "Sure ".toList [(quotingCall, ", done ".toList)]) =
      .ok ("Sure , done".toList, [quotingCall]) := by
  have hclean : ∀ q ∈ "Sure ".toList :: [(quotingCall, ", done ".toList)].map Prod.snd,
      ¬ opening <:+: q := by
    simp only [List.map_singleton]
    simp only [List.forall_mem_cons, ← Text.cut?_eq_none_iff]
    exact ⟨by decide +kernel, by decide +kernel, List.forall_mem_nil _⟩
  have hstrings : ∀ s ∈ ["x", "<b>\"\n\"</b>"], ¬ closing <:+: s.toList := by
    simp only [List.forall_mem_cons, ← Text.cut?_eq_none_iff]
    exact ⟨by decide +kernel, by decide +kernel, List.forall_mem_nil _⟩
  have hnot : ∀ c ∈ [(quotingCall, ", done ".toList)], ¬ HoldsClosing c.1 :=
    List.forall_mem_singleton.2 fun ⟨s, hs, hi⟩ => hstrings s hs hi
  have hprose : Text.trimEnd ("Sure ".toList ++ [", done ".toList].flatten) =
      "Sure , done".toList := by
    decide +kernel
  have htaggable : ∀ c ∈ [(quotingCall, ", done ".toList)], c.1.IsTaggable :=
    List.forall_mem_singleton.2 isTaggable_quotingCall
  obtain ⟨hparse, hextract, -⟩ := extract_written hclean htaggable
  have hwritten := hextract hnot
  rw [if_neg (List.cons_ne_nil _ _), List.map_singleton, List.map_singleton] at hwritten
  dsimp only at hwritten
  rw [hprose] at hwritten
  exact ⟨hparse (quotingCall, ", done ".toList) List.mem_cons_self, hwritten⟩

def closingCall : Invocation := ⟨.custom "f", [("x", .string "</function>")]⟩

/-- The first closing marker is in the string, and the arguments are cut there. -/
theorem extract_closingCall :
    closingCall.IsTaggable ∧ parse (text closingCall) = .ok closingCall ∧
      ∃ e, extract (written [] [(closingCall, [])]) = .error e := by
  have h : closingCall.IsTaggable :=
    ⟨by decide, show ToolName.parse "f" = .custom "f" by decide,
      .map (by decide) (by decide) (List.forall_mem_singleton.2 (.string _))⟩
  refine ⟨h, parse_text h, ?_⟩
  have hnone : (extract (written [] [(closingCall, [])])).toOption.isNone = true := by
    decide +kernel
  cases he : extract (written [] [(closingCall, [])]) with
  | error e => exact ⟨e, rfl⟩
  | ok r =>
      rw [he] at hnone
      cases hnone

end FunctionTag

end ChatTurn
