import ChatTurn.Proofs.Codec.Tool
import ChatTurn.Proofs.Remote.Balance
import ChatTurn.Proofs.Text.Trim
import ChatTurn.Remote.Outbound
import Mathlib.Data.List.Sort

namespace ChatTurn

open Json (Value maxDepth)

/-- Under `d` containers the argument can be written and read: its floats are read from their own
texts, the keys of its maps are distinct, and its containers are not nested too deep. -/
inductive Argument.Fits : Nat → Argument → Prop
  | null {d : Nat} : Fits d null
  | bool {d : Nat} (b : Bool) : Fits d (bool b)
  | integer {d : Nat} (n : Int64) : Fits d (integer n)
  | float {d : Nat} {x : Double} (h : x.ReadsBack) : Fits d (float x)
  | string {d : Nat} (s : String) : Fits d (string s)
  | list {d : Nat} {items : List Argument} (hd : d + 1 < maxDepth)
    (h : ∀ a ∈ items, Fits (d + 1) a) : Fits d (list items)
  | map {d : Nat} {entries : List (String × Argument)} (hd : d + 1 < maxDepth)
    (hk : (Ordered.keys entries).Nodup) (h : ∀ e ∈ entries, Fits (d + 1) e.2) : Fits d (map entries)

theorem Argument.Fits.stays {d : Nat} {a : Argument} (h : a.Fits d) : a.Stays d := by
  induction h with
  | null => exact ⟨rfl, rfl⟩
  | bool => exact ⟨rfl, rfl⟩
  | integer n => exact stays_integer n
  | @float d x h =>
      have hx := Json.isFinite_of_readsBack h
      refine stays_float hx ?_
      rw [toValue, Json.ofDouble_of_isFinite hx]
      exact List.forall_mem_singleton.2 h
  | string => exact ⟨rfl, rfl⟩
  | list hd _ ih => exact stays_list hd ih
  | map hd hk _ ih => exact stays_map hd hk ih

namespace Json.Value

theorem getLast?_writeMembers (ms : List (String × Value)) :
    (writeMembers ms).getLast? = some '\x7d' := by
  induction ms with
  | nil => rfl
  | cons m ms ih => simp [writeMembers, List.getLast?_cons, List.getLast?_append, ih]

theorem head?_write_object (ms : List (String × Value)) :
    (object ms).write.head? = some '\x7b' := by
  cases ms <;> rfl

theorem getLast?_write_object (ms : List (String × Value)) :
    (object ms).write.getLast? = some '\x7d' := by
  cases ms with
  | nil => rfl
  | cons m ms => simp [write, List.getLast?_cons, List.getLast?_append, getLast?_writeMembers]

theorem isTight_write_object (ms : List (String × Value)) : Text.IsTight (object ms).write :=
  ⟨⟨_, head?_write_object ms, rfl⟩, ⟨_, getLast?_write_object ms, rfl⟩⟩

end Json.Value

theorem Argument.Fits.parseValue? {es : List (String × Argument)} (h : (Argument.map es).Fits 0) :
    Json.parseValue? (Argument.map es).toValue.write = some (Argument.map es).toValue := by
  rw [Json.parseValue?, Json.parse?_write]
  exact h.stays.1

namespace Arguments

theorem meant_toJson {as : Arguments} (h : (Argument.map as).Fits 0) :
    ¬ IsMalformed (toJson as).write ∧ meant (toJson as).write = as := by
  have hparse : Json.parseValue? (Text.trim (toJson as).write) =
      some (.object (Argument.toMembers as)) := by
    rw [toJson, (Value.isTight_write_object _).trim]
    exact h.parseValue?
  constructor
  · exact fun hm => hm.2 _ hparse
  · rw [meant, hparse]
    exact Argument.map.inj h.stays.2

end Arguments

namespace Remote

/-- The fragments at an index make up the call, however it is cut. -/
def MakesUp (fs : List CallFragment) (i : UInt32) (c : Call) : Prop :=
  idAt i fs = some c.id ∧ nameAt i fs = c.name.toList ∧ argumentsAt i fs = c.arguments.toList

/-- The fragments are those of the calls, each at its index, in any order among the calls. -/
structure Carries (fs : List CallFragment) (is : List UInt32) (cs : List Call) : Prop where
  ascending : is.Pairwise (· < ·)
  only : ∀ f ∈ fs, f.index ∈ is
  each : List.Forall₂ (MakesUp fs) is cs

/-- The call can be named and written so that it is read again. -/
structure CanBeSent (c : ToolCall) : Prop where
  named : c.name.text.toList ≠ []
  trimmed : Text.trim c.name.text.toList = c.name.text.toList
  canonical : c.name.IsCanonical
  fits : (Argument.map c.arguments).Fits 0

variable {fs : List CallFragment} {i : UInt32} {is : List UInt32} {c : ToolCall}
  {calls : List ToolCall} {ids : IdSupply}

theorem mem_indices_of_idAt {id : String} (h : idAt i fs = some id) : i ∈ indices fs := by
  by_contra hi
  have hnone : idAt i fs = none := congrArg OpenCall.id (callAt_of_not_mem hi)
  rw [h] at hnone
  cases hnone

theorem Carries.exists_makesUp {cs : List Call} (h : Carries fs is cs) (hi : i ∈ is) :
    ∃ c, MakesUp fs i c := by
  have heach := h.each
  clear h
  induction heach with
  | nil => cases hi
  | cons hc _ ih =>
      rcases List.mem_cons.1 hi with rfl | hi
      · exact ⟨_, hc⟩
      · exact ih hi

theorem Carries.indices_eq {cs : List Call} (h : Carries fs is cs) : indices fs = is := by
  -- Both ascend, so it is enough that they have the same members.
  refine (pairwise_indices fs).eq_of_mem_iff h.ascending fun i => ⟨fun hi => ?_, fun hi => ?_⟩
  · obtain ⟨f, hf, rfl⟩ := mem_indices.1 hi
    exact h.only f hf
  · obtain ⟨c, hc⟩ := h.exists_makesUp hi
    exact mem_indices_of_idAt hc.1

theorem meantCall_ofCall (hc : CanBeSent c) (h : MakesUp fs i (Call.ofCall c)) (newId : String) :
    ¬ IsMalformed fs i ∧ meantCall fs newId i = c := by
  obtain ⟨hid, hname, harguments⟩ := h
  have htext : argumentsAt i fs = (Arguments.toJson c.arguments).write := by
    rw [harguments, Call.ofCall, Value.render, String.toList_ofList]
  obtain ⟨hwell, hmeant⟩ := Arguments.meant_toJson hc.fits
  have hname : nameAt i fs = c.name.text.toList := hname
  constructor
  · rintro (hm | hm)
    · rw [hname, hc.trimmed] at hm
      exact hc.named hm
    · exact hwell (htext ▸ hm)
  · rw [meantCall, hid, hname, hc.trimmed, htext, hmeant, String.ofList_toList, hc.canonical]
    rfl

theorem meantCalls_ofCall (ids : IdSupply) (hc : ∀ c ∈ calls, CanBeSent c)
    (h : List.Forall₂ (MakesUp fs) is (calls.map Call.ofCall)) (n : Nat) :
    (∀ i ∈ is, ¬ IsMalformed fs i) ∧ meantCalls ids fs n is = calls := by
  induction calls generalizing is n with
  | nil =>
      cases h
      exact ⟨List.forall_mem_nil _, rfl⟩
  | cons c calls ih =>
      rw [List.forall_mem_cons] at hc
      cases h with
      | @cons i _ is _ hi his =>
          obtain ⟨hwell, hmeant⟩ := meantCall_ofCall hc.1 hi (ids n)
          obtain ⟨hwells, hmeants⟩ := ih hc.2 his (n + 1)
          refine ⟨List.forall_mem_cons.2 ⟨hwell, hwells⟩, ?_⟩
          rw [meantCalls, List.zipIdx_cons, List.map_cons, hmeant]
          exact congrArg (c :: ·) hmeants

def Call.cut (c : Call) (i : UInt32) (first : String) (rest : List String) : List CallFragment :=
  ⟨i, some c.id, some c.type, some ⟨some c.name, some first⟩⟩ ::
    rest.map fun s => ⟨i, none, none, some ⟨none, some s⟩⟩

theorem makesUp_of_cut {c : Call} (first : String) (rest : List String)
    (h : piecesAt i fs = c.cut i first rest) (ha : String.join (first :: rest) = c.arguments) :
    MakesUp fs i c := by
  refine ⟨?_, ?_, ?_⟩
  · rw [idAt, h, Call.cut]
    simp [List.filterMap_map]
  · rw [nameAt, h, Call.cut]
    simp [List.flatMap_map]
  · rw [argumentsAt, h, Call.cut, ← ha]
    simp [List.flatMap_map]

namespace Turn

theorem orderly_of_last {cs : List Choice} (h : ∀ c ∈ cs, c.finishReason = none) (d : Choice) :
    Orderly (cs ++ [d]) := by
  cases hd : d.finishReason with
  | none => exact orderly_of_unfinished (List.forall_mem_append.2 ⟨h, List.forall_mem_singleton.2 hd⟩)
  | some reason => exact (orderly_iff h hd).2 rfl

/-- Calls with ids of their own that are sent and come back, however they are cut into fragments and
the fragments of different calls mixed, are the calls of the turn, in the order of their indices. -/
theorem aggregate_of_carries (ids agg : IdSupply) {chunks : List Chunk}
    (ho : Orderly (firstChoices chunks))
    (hf : Carries (fragmentsOf (firstChoices chunks)) is (calls.map Call.ofCall))
    (hids : (calls.map (·.id)).Nodup) (hc : ∀ c ∈ calls, CanBeSent c)
    (ht : ¬ FunctionTag.opening <:+: contentOf (firstChoices chunks)) :
    aggregate agg (events ids chunks) = .ok ⟨String.ofList
      (if calls.isEmpty then contentOf (firstChoices chunks)
        else Text.trimEnd (contentOf (firstChoices chunks))),
      stopOf (firstChoices chunks), calls⟩ := by
  obtain ⟨hwell, hmeant⟩ := meantCalls_ofCall ids hc hf.each 0
  obtain ⟨es, gs, hb⟩ := Orderly.brings ids ho
  rw [← hf.indices_eq] at hmeant
  have ha := aggregate_of_distinct hb (by rw [hmeant]; exact hids) ht
    (fun f hm => hwell _ (hf.only f hm)) agg
  rw [events_eq, ha, ← isEmpty_meantCalls, hmeant]

def sentCalls : List ToolCall :=
  [⟨⟨.custom "f", [("n", .integer (-1)), ("l", .list [.null, .string "\""])]⟩, "a"⟩,
    ⟨⟨.builtin .braveSearch, []⟩, "b"⟩]

/-- The first call in two pieces, the second call between them. -/
def mixed : List Chunk :=
  [⟨[⟨0, { calls := some [⟨3, some "a", some "function",
      some ⟨some "f", some "\x7b\"n\":-1,\"l\":[null"⟩⟩] }, none⟩]⟩,
    ⟨[⟨0, { content := some "Hi ", calls := some [⟨7, some "b", some "function",
      some ⟨some "brave_search", some "\x7b\x7d"⟩⟩,
      ⟨3, none, none, some ⟨none, some ",\"\\\"\"]\x7d"⟩⟩] }, some "tool_calls"⟩]⟩]

theorem carries_mixed :
    Carries (fragmentsOf (firstChoices mixed)) [3, 7] (sentCalls.map Call.ofCall) := by
  refine ⟨by decide, by decide, .cons ?_ (.cons ?_ .nil)⟩
  · exact makesUp_of_cut "\x7b\"n\":-1,\"l\":[null" [",\"\\\"\"]\x7d"] rfl (by decide +kernel)
  · exact makesUp_of_cut "\x7b\x7d" [] rfl (by decide +kernel)

theorem canBeSent_sentCalls : ∀ c ∈ sentCalls, CanBeSent c := by
  have hlist : (Argument.list [.null, .string "\""]).Fits 1 := by
    refine .list (by decide) ?_
    simp only [List.forall_mem_cons]
    exact ⟨.null, .string _, List.forall_mem_nil _⟩
  have harguments : (Argument.map [("n", .integer (-1)), ("l", .list [.null, .string "\""])]).Fits 0 := by
    refine .map (by decide) (by decide) ?_
    simp only [List.forall_mem_cons]
    exact ⟨.integer _, hlist, List.forall_mem_nil _⟩
  simp only [sentCalls, List.forall_mem_cons]
  refine ⟨⟨by decide, by decide, ?_, harguments⟩, ⟨by decide, by decide, ?_, ?_⟩, List.forall_mem_nil _⟩
  · rw [ToolName.IsCanonical]
    decide
  · rw [ToolName.IsCanonical]
    decide
  · exact .map (by decide) (by decide) (List.forall_mem_nil _)

theorem aggregate_of_carries_mixed :
    aggregate .strokes (events .strokes mixed) = .ok ⟨"Hi", .endOfMessage, sentCalls⟩ := by
  have ho : Orderly (firstChoices mixed) :=
    orderly_of_last (List.forall_mem_singleton.2 rfl) _
  have ht : ¬ FunctionTag.opening <:+: contentOf (firstChoices mixed) :=
    Text.cut?_eq_none_iff.1 (by decide)
  rw [aggregate_of_carries .strokes .strokes ho carries_mixed (by decide) canBeSent_sentCalls ht]
  have hcontent : Text.trimEnd (contentOf (firstChoices mixed)) = "Hi".toList := by decide
  have hstop : stopOf (firstChoices mixed) = .endOfMessage := by decide
  rw [hcontent, hstop]
  rfl

end Turn

end Remote

end ChatTurn
