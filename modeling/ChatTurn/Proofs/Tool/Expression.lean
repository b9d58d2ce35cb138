import ChatTurn.Proofs.Ordered
import ChatTurn.Proofs.Tool.Spelling
import ChatTurn.Tool.CallText

namespace ChatTurn

open Literal (Spells Closed joined closed_of_plain closed_of_all closing_singleton)

section Names

variable {cs : List Char} {c : Char}

theorem toNat_of_name (h : (isAsciiLetter c || Double.isDigit c || c == '_' || c == '-' ||
    c == '.') = true) : 0x20 < c.toNat ∧ c.toNat < 0x7F := by
  simp only [isAsciiLetter, Double.isDigit, Bool.or_eq_true, decide_eq_true_eq, beq_iff_eq,
    Char.le_def, UInt32.le_iff_toNat_le] at h
  have hnat : c.toNat = c.val.toNat := rfl
  rcases h with (((((h | h) | h) | rfl) | rfl) | rfl)
  · have h₁ : 97 ≤ c.val.toNat := h.1
    have h₂ : c.val.toNat ≤ 122 := h.2
    omega
  · have h₁ : 65 ≤ c.val.toNat := h.1
    have h₂ : c.val.toNat ≤ 90 := h.2
    omega
  · have h₁ : 48 ≤ c.val.toNat := h.1
    have h₂ : c.val.toNat ≤ 57 := h.2
    omega
  all_goals decide

theorem isToolName_of_isIdentifier (h : isIdentifier cs = true) : isToolName cs = true := by
  cases cs with
  | nil => cases h
  | cons c cs =>
      simp only [isIdentifier, Bool.and_eq_true, Bool.or_eq_true, List.all_eq_true] at h
      simp only [isToolName, List.isEmpty_cons, Bool.not_false, Bool.true_and, List.all_cons,
        Bool.and_eq_true, Bool.or_eq_true, List.all_eq_true]
      refine ⟨?_, fun d hd => ?_⟩
      · rcases h.1 with h | h
        · exact .inl (.inl (.inl (.inl h)))
        · exact .inl (.inl (.inr h))
      · exact .inl (.inl (h.2 d hd))

theorem isTight_of_isToolName (h : isToolName cs = true) : Text.IsTight cs := by
  rw [isToolName, Bool.and_eq_true, Bool.not_eq_true', List.isEmpty_eq_false_iff,
    List.all_eq_true] at h
  exact .of_forall h.1 fun c hc => isWhite_of_visible (toNat_of_name (h.2 c hc))

theorem not_mem_of_isToolName (h : isToolName cs = true)
    (hc : c ∈ '>' :: '=' :: '<' :: Literal.marks) : c ∉ cs := by
  rw [isToolName, Bool.and_eq_true, List.all_eq_true] at h
  intro hm
  have hall : ('>' :: '=' :: '<' :: Literal.marks).all (fun m => !(isAsciiLetter m ||
      Double.isDigit m || m == '_' || m == '-' || m == '.')) = true := rfl
  have hn := List.all_eq_true.1 hall c hc
  rw [h.2 c hm] at hn
  cases hn

theorem closed_of_isToolName (h : isToolName cs = true) : Closed cs :=
  closed_of_plain fun _ hc hm =>
    not_mem_of_isToolName h (List.mem_append_right ['>', '=', '<'] hm) hc

end Names

structure Arguments.IsKeyword (given : Arguments) : Prop where
  distinct : (Ordered.keys given).Nodup
  identifier : ∀ e ∈ given, isIdentifier e.1.toList = true

namespace CallExpression

/-- A text of arguments, each after its name. -/
inductive SpellsArguments : Arguments → List Char → Prop
  | mk {ps : List ((String × Argument) × List Char)} (hk : Arguments.IsKeyword (ps.map Prod.fst))
      (h : ∀ p ∈ ps, Spells p.1.2 p.2) :
      SpellsArguments (ps.map Prod.fst) (joined (ps.map fun p => p.1.1.toList ++ '=' :: p.2))

def builtinText (tool : BuiltinTool) (arguments : List Char) : List Char :=
  tool.name.toList ++ (".call(".toList ++ (arguments ++ [')']))

/-- A call in a list. -/
inductive SpellsCall : Invocation → List Char → Prop
  | mk {i : Invocation} {text : List Char} (hn : isToolName i.name.text.toList = true)
      (hc : i.name.IsCanonical) (h : SpellsArguments i.arguments text) :
      SpellsCall i (i.name.text.toList ++ '(' :: (text ++ [')']))

def listText (calls : List (List Char)) : List Char := '[' :: (joined calls ++ [']'])

theorem exists_spellsArguments {given : Arguments} (hk : given.IsKeyword)
    (h : ∀ e ∈ given, e.2.Expressible) : ∃ text, SpellsArguments given text := by
  obtain ⟨ps, rfl, hps⟩ := Literal.exists_pairs
    (R := fun (e : String × Argument) t => Spells e.2 t) fun e he => Literal.exists_spells (h e he)
  exact ⟨_, .mk hk hps⟩

variable {given : Arguments} {key : String} {a : Argument} {t raw text : List Char}
  {raws : List (List Char)} {i : Invocation}

theorem isTight_pair (hkey : isIdentifier key.toList = true) (h : Spells a t) :
    Text.IsTight (key.toList ++ '=' :: t) :=
  (isTight_of_isToolName (isToolName_of_isIdentifier hkey)).around h.isTight ['=']

theorem closed_pair (hkey : isIdentifier key.toList = true) (h : Spells a t) :
    Closed (key.toList ++ '=' :: t) := by
  have heq : Closed ['='] := closed_of_all rfl
  exact (closed_of_isToolName (isToolName_of_isIdentifier hkey)).append (heq.append h.closed)

theorem addPairs_blank (h : Text.isBlank raw = true) :
    addPairs given (raw :: raws) = addPairs given raws := by
  rw [addPairs, Text.trim_of_isBlank h]
  rfl

theorem addPairs_pair (hr : Text.trim raw = key.toList ++ '=' :: t)
    (hkey : isIdentifier key.toList = true) (hnew : key ∉ Ordered.keys given) (h : Spells a t) :
    addPairs given (raw :: raws) = addPairs (given ++ [(key, a)]) raws := by
  have hname := isToolName_of_isIdentifier hkey
  have hne : (key.toList ++ '=' :: t).isEmpty = false := by simp
  have hcut := Text.cut?_singleton (not_mem_of_isToolName hname (c := '=') (by decide)) t
  have hvalue : Literal.parse t = .ok a := h.value_eq h.isTight.trim (Nat.le_refl _)
  have hget : Ordered.get? key given = none := Ordered.get?_eq_none_iff.2 hnew
  rw [addPairs]
  simp only [hr, hne, hcut, (isTight_of_isToolName hname).trim, hkey, hvalue, String.ofList_toList,
    hget, Ordered.put_of_not_mem hnew]
  rfl

theorem addPairs_eq {ps : List ((String × Argument) × List Char)}
    (hr : List.Forall₂ (fun raw t => Text.trim raw = t) (raws.filter (!Text.isBlank ·))
      (ps.map fun p => p.1.1.toList ++ '=' :: p.2))
    (hk : Arguments.IsKeyword (given ++ ps.map Prod.fst)) (h : ∀ p ∈ ps, Spells p.1.2 p.2) :
    addPairs given raws = .ok (given ++ ps.map Prod.fst) := by
  -- A blank part is passed over, and every other one is the next pair.
  induction raws generalizing given ps with
  | nil =>
      cases ps with
      | nil => simp [addPairs]
      | cons p ps => cases hr
  | cons raw raws ih =>
      by_cases hb : Text.isBlank raw = true
      · rw [List.filter_cons_of_neg (by simp [hb])] at hr
        rw [addPairs_blank hb]
        exact ih hr hk h
      · rw [List.filter_cons_of_pos (by simp [hb])] at hr
        cases ps with
        | nil => cases hr
        | cons p ps =>
            obtain ⟨⟨key, a⟩, t⟩ := p
            obtain ⟨hp, hps⟩ := List.forall_mem_cons.1 h
            have hnew : key ∉ Ordered.keys given := by
              have hd := hk.distinct
              rw [Ordered.keys, List.map_append, List.nodup_append] at hd
              exact fun hm => hd.2.2 _ hm _ List.mem_cons_self rfl
            rw [List.map_cons] at hr hk
            cases hr with
            | cons hr hrs =>
                rw [List.append_cons] at hk
                rw [addPairs_pair hr (hk.identifier _ (by simp)) hnew hp, ih hrs hk hps]
                simp

theorem keywordArguments_eq (h : SpellsArguments given text) :
    keywordArguments text = .ok given := by
  cases h with
  | @mk ps hk h =>
      have hkey : ∀ p ∈ ps, isIdentifier p.1.1.toList = true := List.forall_mem_map.1 hk.identifier
      obtain ⟨raws, hsplit, hr⟩ := Literal.exists_splitTopLevel
        (List.forall_mem_map.2 fun p hp => closed_pair (hkey p hp) (h p hp))
        (List.forall_mem_map.2 fun p hp => isTight_pair (hkey p hp) (h p hp))
      rw [keywordArguments, hsplit]
      exact addPairs_eq hr hk h

theorem inner_arguments (h : SpellsArguments given text) : Literal.Inner text := by
  cases h with
  | mk hk h =>
      exact Literal.inner_joined (List.forall_mem_map.2 fun p hp =>
        closed_pair (hk.identifier _ (List.mem_map_of_mem hp)) (h p hp))

theorem isTight_call (h : SpellsCall i text) : Text.IsTight text := by
  cases h with
  | mk hn hc h =>
      exact (isTight_of_isToolName hn).around (.singleton rfl) ('(' :: _)

theorem closed_call (h : SpellsCall i text) : Closed text := by
  cases h with
  | mk hn hc h =>
      have hargs := ((inner_arguments h).closing (closing_singleton (c := ')') (by decide))).bracket
        (c := '(') (by decide)
      exact (closed_of_isToolName hn).append hargs

theorem named_eq (h : SpellsCall i text) (hr : Text.trim raw = text) : named raw = .ok i := by
  cases h with
  | @mk text hn hc h =>
      have hcut := Text.cut?_singleton (not_mem_of_isToolName hn (c := '(') (by decide))
        (text ++ [')'])
      rw [named]
      simp only [hr, hcut, (isTight_of_isToolName hn).trim, hn, Text.stripEnd?_append,
        keywordArguments_eq h, String.ofList_toList]
      exact congrArg (fun n => Except.ok (Invocation.mk n i.arguments)) hc

theorem isTight_listText (calls : List (List Char)) : Text.IsTight (listText calls) := by
  have ho : Text.IsTight ['['] := .singleton rfl
  exact ho.around (.singleton rfl) (joined calls)

theorem list_eq {cs : List (Invocation × List Char)} (hne : cs ≠ [])
    (h : ∀ c ∈ cs, SpellsCall c.1 c.2) :
    list (listText (cs.map Prod.snd)) = .ok (cs.map Prod.fst) := by
  obtain ⟨raws, hsplit, hr⟩ := Literal.exists_splitTopLevel
    (List.forall_mem_map.2 fun c hc => closed_call (h c hc))
    (List.forall_mem_map.2 fun c hc => isTight_call (h c hc))
  have hmap := Literal.mapM_of_trim (f := named) hr fun c hc _ => named_eq (h c hc)
  have hbody : Literal.listBody? (listText (cs.map Prod.snd)) = some (joined (cs.map Prod.snd)) :=
    Literal.listBody?_brackets _
  rw [list]
  simp only [(isTight_listText _).trim, hbody, hsplit, bind, Except.bind, hmap]
  cases cs with
  | nil => exact absurd rfl hne
  | cons c cs => rfl

theorem isToolName_name (tool : BuiltinTool) : isToolName tool.name.toList = true := by
  cases tool <;> decide

theorem isTight_builtinText (tool : BuiltinTool) (arguments : List Char) :
    Text.IsTight (builtinText tool arguments) := by
  rw [builtinText, ← List.append_assoc ".call(".toList]
  exact (isTight_of_isToolName (isToolName_name tool)).around (.singleton rfl) _

theorem builtinCall?_builtinText (tool : BuiltinTool) (arguments : List Char) :
    builtinCall? (builtinText tool arguments) = some (tool, arguments ++ [')']) := by
  have hdot : '.' ∉ tool.name.toList := by cases tool <;> decide
  have hcut : Text.cut? ".call(".toList (builtinText tool arguments) =
      some (tool.name.toList, arguments ++ [')']) := Text.cut?_append_of_not_mem hdot _ _
  rw [builtinCall?, hcut]
  simp only [bind, Option.bind, (isTight_of_isToolName (isToolName_name tool)).trim,
    String.ofList_toList, BuiltinTool.ofName?_name]

theorem builtin_eq (tool : BuiltinTool) (h : SpellsArguments given text) :
    builtin (builtinText tool text) = .ok ⟨.builtin tool, given⟩ := by
  have hend : Text.trimEnd (text ++ [')']) = text ++ [')'] :=
    Text.trimEnd_eq_self (by simp [show isWhite ')' = false from rfl])
  rw [builtin]
  simp only [(isTight_builtinText tool text).trim, builtinCall?_builtinText, hend,
    Text.stripEnd?_append, keywordArguments_eq h]
  rfl

end CallExpression

namespace CallText

open CallExpression

theorem parse_of_other {c : Char} {cs : List Char} (ht : Text.IsTight (c :: cs)) (htag : c ≠ '<')
    (hobject : c ≠ '\x7b') : parse (c :: cs) =
      if c = '[' then CallExpression.list (c :: cs)
      else (CallExpression.builtin (c :: cs)).map ([·]) := by
  have hopening : FunctionTag.opening = '<' :: "function=".toList := rfl
  rw [parse]
  simp only [ht.trim, hopening, Text.startsWith_of_ne htag.symm, Text.startsWith_of_ne hobject.symm]
  by_cases hlist : c = '['
  · subst hlist
    rfl
  · simp [Text.startsWith_of_ne (Ne.symm hlist), hlist]

theorem parse_builtinText (tool : BuiltinTool) (arguments : List Char) :
    parse (builtinText tool arguments) =
      (CallExpression.builtin (builtinText tool arguments)).map ([·]) := by
  have hn := isToolName_name tool
  obtain ⟨c, cs, hc⟩ : ∃ c cs, tool.name.toList = c :: cs := by
    cases tool <;> exact ⟨_, _, rfl⟩
  have hne : ∀ d ∈ '>' :: '=' :: '<' :: Literal.marks, c ≠ d := by
    rintro d hd rfl
    exact not_mem_of_isToolName hn hd (hc ▸ List.mem_cons_self)
  have ht := isTight_builtinText tool arguments
  rw [builtinText, hc, List.cons_append] at ht ⊢
  rw [parse_of_other ht (hne _ (by decide)) (hne _ (by decide)), if_neg (hne _ (by decide))]

/-- Calls that are written as expressions are read as those calls, and every call that can be
written so has a text. -/
theorem parse_of_spells :
    (∀ given : Arguments, given.IsKeyword → (∀ e ∈ given, e.2.Expressible) →
      ∃ text, SpellsArguments given text) ∧
    (∀ (tool : BuiltinTool) (given : Arguments) (text : List Char), SpellsArguments given text →
      CallExpression.builtin (builtinText tool text) = .ok ⟨.builtin tool, given⟩ ∧
      parse (builtinText tool text) = .ok [⟨.builtin tool, given⟩]) ∧
    (∀ cs : List (Invocation × List Char), cs ≠ [] → (∀ c ∈ cs, SpellsCall c.1 c.2) →
      CallExpression.list (listText (cs.map Prod.snd)) = .ok (cs.map Prod.fst) ∧
      parse (listText (cs.map Prod.snd)) = .ok (cs.map Prod.fst)) := by
  refine ⟨fun given hk h => exists_spellsArguments hk h, fun tool given text h => ?_,
    fun cs hne h => ?_⟩
  · have hb := builtin_eq tool h
    refine ⟨hb, ?_⟩
    rw [parse_builtinText, hb]
    rfl
  · have hl := list_eq hne h
    refine ⟨hl, ?_⟩
    exact (parse_of_other (isTight_listText _) (by decide) (by decide)).trans hl

theorem parse_of_spells_nested :
    parse "[get-it.v2(q=\"a, \\\"'](\\\\\", n=[-3, [None]], m=\x7b\"k\":[1,\"\x7d\"]\x7d)]".toList =
      .ok [⟨.custom "get-it.v2", [("q", .string "a, \"'](\\"),
        ("n", .list [.integer (-3), .list [.null]]),
        ("m", .map [("k", .list [.integer 1, .string "\x7d"])])]⟩] := by
  have hq : Spells (.string "a, \"'](\\") "\"a, \\\"'](\\\\\"".toList :=
    .string (.inl rfl) _
  have hnone : ∀ p ∈ [(Argument.null, "None".toList)], Spells p.1 p.2 :=
    List.forall_mem_singleton.2 (.null (.inl rfl))
  have hitems : ∀ p ∈ [(Argument.integer (-3), "-3".toList), (.list [.null], "[None]".toList)],
      Spells p.1 p.2 :=
    List.forall_mem_cons.2 ⟨.integer (-3), List.forall_mem_singleton.2 (.list hnone)⟩
  have hm : Spells (.map [("k", .list [.integer 1, .string "\x7d"])])
      "\x7b\"k\":[1,\"\x7d\"]\x7d".toList :=
    Literal.spells_write (.map (by decide) (by decide) (List.forall_mem_singleton.2
      (.list (by decide) (List.forall_mem_cons.2
        ⟨.integer 1, List.forall_mem_singleton.2 (.string _)⟩))))
  have hpairs : ∀ p ∈ [(("q", _), _), (("n", _), _), (("m", _), _)], Spells p.1.2 p.2 :=
    List.forall_mem_cons.2
      ⟨hq, List.forall_mem_cons.2 ⟨.list hitems, List.forall_mem_singleton.2 hm⟩⟩
  have hgiven := SpellsArguments.mk ⟨by decide, by decide⟩ hpairs
  have hcall := SpellsCall.mk (i := ⟨.custom "get-it.v2", _⟩) (by decide)
    (show ToolName.parse "get-it.v2" = .custom "get-it.v2" by decide) hgiven
  have h := (parse_of_spells.2.2 [(_, _)] (List.cons_ne_nil _ _)
    (List.forall_mem_singleton.2 hcall)).2
  exact h

end CallText

end ChatTurn
