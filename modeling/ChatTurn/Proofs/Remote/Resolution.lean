import ChatTurn.Proofs.Aggregator.Delivery
import ChatTurn.Proofs.Remote.Gathering

namespace ChatTurn

namespace Arguments

def IsMalformed (raw : List Char) : Prop :=
  Text.trim raw ≠ [] ∧ ∀ members, Json.parseValue? (Text.trim raw) ≠ some (.object members)

/-- The members of an object, and none for other text. -/
def meant (raw : List Char) : Arguments :=
  match Json.parseValue? (Text.trim raw) with
  | some (.object members) => Argument.ofMembers members
  | _ => []

theorem parse_of_malformed {raw : List Char} (h : IsMalformed raw) : ∃ e, parse raw = .error e := by
  rw [parse]
  simp only [List.isEmpty_iff, if_neg h.1]
  split
  · next members hm => exact absurd hm (h.2 members)
  · exact ⟨_, rfl⟩
  · exact ⟨_, rfl⟩

theorem parse_of_wellFormed {raw : List Char} (h : ¬ IsMalformed raw) :
    parse raw = .ok (meant raw) := by
  rw [parse, meant]
  by_cases he : Text.trim raw = []
  · simp only [he]
    rfl
  · simp only [List.isEmpty_iff, if_neg he]
    cases hv : Json.parseValue? (Text.trim raw) with
    | none => exact absurd ⟨he, fun members hm => by rw [hv] at hm; cases hm⟩ h
    | some v =>
        cases v with
        | object members => rfl
        | _ => exact absurd ⟨he, fun members hm => by rw [hv] at hm; cases hm⟩ h

end Arguments

namespace Remote

/-- No call is meant at an index: it has no name, or its arguments are no object. -/
def IsMalformed (fs : List CallFragment) (i : UInt32) : Prop :=
  Text.trim (nameAt i fs) = [] ∨ Arguments.IsMalformed (argumentsAt i fs)

/-- The call meant at an index, under a new id if the fragments gave none. -/
def meantCall (fs : List CallFragment) (newId : String) (i : UInt32) : ToolCall :=
  ⟨⟨ToolName.parse (String.ofList (Text.trim (nameAt i fs))), Arguments.meant (argumentsAt i fs)⟩,
    (idAt i fs).getD newId⟩

def meantCalls (ids : IdSupply) (fs : List CallFragment) (n : Nat) (is : List UInt32) :
    List ToolCall :=
  (is.zipIdx n).map fun p => meantCall fs (ids p.2) p.1

variable {ids : IdSupply} {fs : List CallFragment} {i : UInt32} {is : List UInt32} {n : Nat}

theorem isEmpty_meantCalls : (meantCalls ids fs n is).isEmpty = is.isEmpty := by
  cases is <;> rfl

theorem resolve_of_malformed (h : IsMalformed fs i) (newId : String) :
    ∃ e, (callAt i fs).resolve newId = .error e := by
  simp only [OpenCall.resolve, callAt, String.toList_ofList, List.isEmpty_iff]
  by_cases hn : Text.trim (nameAt i fs) = []
  · exact ⟨.noFunctionName, if_pos hn⟩
  · obtain ⟨e, he⟩ := Arguments.parse_of_malformed (h.resolve_left hn)
    exact ⟨e, by rw [if_neg hn, he]; rfl⟩

theorem resolve_of_wellFormed (h : ¬ IsMalformed fs i) (newId : String) :
    (callAt i fs).resolve newId = .ok (meantCall fs newId i) := by
  obtain ⟨hn, ha⟩ := not_or.1 h
  simp only [OpenCall.resolve, callAt, String.toList_ofList, List.isEmpty_iff]
  rw [if_neg hn, Arguments.parse_of_wellFormed ha]
  rfl

theorem resolutions_of_wellFormed (ids : IdSupply) (n : Nat) (h : ∀ i ∈ is, ¬ IsMalformed fs i)
    (stop : StopReason) :
    Event.AllResolved (Turn.resolutions ids stop n (is.map (callAt · fs))) ∧
      Event.delivered (Turn.resolutions ids stop n (is.map (callAt · fs))) =
        meantCalls ids fs n is := by
  induction is generalizing n with
  | nil => exact ⟨List.forall_mem_nil _, rfl⟩
  | cons i is ih =>
      have hi := resolve_of_wellFormed (h i List.mem_cons_self) (ids n)
      obtain ⟨hr, hd⟩ := ih (n + 1) fun j hj => h j (List.mem_cons_of_mem i hj)
      simp only [List.map_cons, Turn.resolutions, hi]
      constructor
      · exact List.forall_mem_cons.2 ⟨⟨_, _, rfl⟩, hr⟩
      · rw [Event.delivered_resolved, hd]
        rfl

theorem resolutions_kind (stop : StopReason) (n : Nat) (cs : List OpenCall) :
    ∀ e ∈ Turn.resolutions ids stop n cs, e.kind = .progress := by
  induction cs generalizing n with
  | nil => exact List.forall_mem_nil _
  | cons c cs ih =>
      rw [Turn.resolutions]
      refine List.forall_mem_cons.2 ⟨?_, ih (n + 1)⟩
      cases c.resolve (ids n) <;> rfl

theorem resolutions_of_malformed (ids : IdSupply) (hi : i ∈ is) (h : IsMalformed fs i)
    (stop : StopReason) (n : Nat) :
    ∃ before stop? after, Turn.resolutions ids stop n (is.map (callAt · fs)) =
        before ++ .failure stop? :: after ∧ ∀ e ∈ before, e.kind = .progress := by
  have hf : ∃ stop?, .failure stop? ∈ Turn.resolutions ids stop n (is.map (callAt · fs)) := by
    induction is generalizing n with
    | nil => cases hi
    | cons j is ih =>
        rw [List.map_cons, Turn.resolutions]
        rcases List.mem_cons.1 hi with rfl | hi
        · obtain ⟨e, he⟩ := resolve_of_malformed h (ids n)
          rw [he]
          exact ⟨_, List.mem_cons_self⟩
        · obtain ⟨stop?, hm⟩ := ih hi (n + 1)
          exact ⟨stop?, List.mem_cons_of_mem _ hm⟩
  obtain ⟨stop?, hm⟩ := hf
  obtain ⟨before, after, he⟩ := List.append_of_mem hm
  refine ⟨before, stop?, after, he, fun e hb => ?_⟩
  apply resolutions_kind stop n (is.map (callAt · fs))
  rw [he]
  exact List.mem_append_left _ hb

theorem nodup_meantCalls (hids : Function.Injective ids)
    (hgiven : ∀ i j, i ≠ j → ∀ id, idAt i fs = some id → idAt j fs ≠ some id)
    (hnew : ∀ i k, idAt i fs ≠ some (ids k)) (h : is.Pairwise (· < ·)) (n : Nat) :
    ((meantCalls ids fs n is).map (·.id)).Nodup := by
  induction is generalizing n with
  | nil => exact List.nodup_nil
  | cons i is ih =>
      obtain ⟨hi, his⟩ := List.pairwise_cons.1 h
      rw [meantCalls, List.zipIdx_cons, List.map_cons, List.map_cons, List.nodup_cons]
      refine ⟨fun hm => ?_, ih his (n + 1)⟩
      rw [List.map_map, List.mem_map] at hm
      obtain ⟨⟨j, k⟩, hp, he⟩ := hm
      have hk : n < k := List.le_snd_of_mem_zipIdx hp
      have hj : i < j := hi j (List.fst_mem_of_mem_zipIdx hp)
      have hne : i ≠ j := by
        rintro rfl
        exact UInt32.lt_irrefl i hj
      change (idAt j fs).getD (ids k) = (idAt i fs).getD (ids n) at he
      cases hgi : idAt i fs with
      | none =>
          cases hgj : idAt j fs with
          | none =>
              rw [hgi, hgj] at he
              have := hids he
              omega
          | some id =>
              rw [hgi, hgj] at he
              exact hnew j n (hgj.trans (congrArg some he))
      | some id =>
          cases hgj : idAt j fs with
          | none =>
              rw [hgi, hgj] at he
              exact hnew i k (hgi.trans (congrArg some he.symm))
          | some id' =>
              rw [hgi, hgj] at he
              exact hgiven i j hne id hgi (hgj.trans (congrArg some he))

end Remote

end ChatTurn
