import ChatTurn.Proofs.Event.Open
import ChatTurn.Remote.Turn

namespace ChatTurn.Remote

def piecesAt (i : UInt32) (fs : List CallFragment) : List CallFragment := fs.filter (·.index = i)

def nameAt (i : UInt32) (fs : List CallFragment) : List Char :=
  (piecesAt i fs).flatMap fun f => ((f.function.bind (·.name)).getD "").toList

def argumentsAt (i : UInt32) (fs : List CallFragment) : List Char :=
  (piecesAt i fs).flatMap fun f => ((f.function.bind (·.arguments)).getD "").toList

def idAt (i : UInt32) (fs : List CallFragment) : Option String :=
  ((piecesAt i fs).filterMap (·.id)).getLast?

def callAt (i : UInt32) (fs : List CallFragment) : OpenCall :=
  ⟨idAt i fs, String.ofList (nameAt i fs), String.ofList (argumentsAt i fs)⟩

def insertIndex (j : UInt32) : List UInt32 → List UInt32
  | [] => [j]
  | i :: is => if j < i then j :: i :: is else if j = i then i :: is else i :: insertIndex j is

def indices (fs : List CallFragment) : List UInt32 :=
  fs.foldl (fun is f => insertIndex f.index is) []

/-- The calls that the fragments make up, in the order of their indices. -/
def table (fs : List CallFragment) : List (UInt32 × OpenCall) :=
  (indices fs).map fun i => (i, callAt i fs)

variable {i j : UInt32} {is : List UInt32} {f : CallFragment} {fs gs : List CallFragment}

theorem mem_insertIndex : i ∈ insertIndex j is ↔ i = j ∨ i ∈ is := by
  induction is with
  | nil => rw [insertIndex, List.mem_singleton, or_iff_left List.not_mem_nil]
  | cons k is ih =>
      rw [insertIndex]
      split
      · exact List.mem_cons
      · split
        · next h =>
            subst h
            exact ⟨.inr, fun h => h.elim (fun he => he ▸ List.mem_cons_self) id⟩
        · rw [List.mem_cons, ih, List.mem_cons, or_left_comm]

theorem pairwise_insertIndex (h : is.Pairwise (· < ·)) : (insertIndex j is).Pairwise (· < ·) := by
  induction is with
  | nil => exact List.pairwise_singleton _ j
  | cons k is ih =>
      obtain ⟨hk, his⟩ := List.pairwise_cons.1 h
      rw [insertIndex]
      split
      · next hlt =>
          refine List.pairwise_cons.2 ⟨fun i hi => ?_, h⟩
          rcases List.mem_cons.1 hi with rfl | hi
          · exact hlt
          · exact UInt32.lt_trans hlt (hk i hi)
      · next hge =>
          split
          · exact h
          · next hne =>
              refine List.pairwise_cons.2 ⟨fun i hi => ?_, ih his⟩
              rcases mem_insertIndex.1 hi with rfl | hi
              · rw [UInt32.lt_iff_toNat_lt] at hge ⊢
                rw [← UInt32.toNat_inj] at hne
                omega
              · exact hk i hi

theorem indices_concat : indices (fs ++ [f]) = insertIndex f.index (indices fs) := by
  rw [indices, List.foldl_append]
  rfl

theorem foldl_insertIndex (h : is.Pairwise (· < ·)) :
    (fs.foldl (fun is f => insertIndex f.index is) is).Pairwise (· < ·) ∧
      ∀ i, i ∈ fs.foldl (fun is f => insertIndex f.index is) is ↔
        i ∈ is ∨ ∃ f ∈ fs, f.index = i := by
  induction fs generalizing is with
  | nil => exact ⟨h, fun i => by simp⟩
  | cons f fs ih =>
      obtain ⟨hp, hm⟩ := ih (pairwise_insertIndex (j := f.index) h)
      refine ⟨hp, fun i => ?_⟩
      rw [List.foldl_cons, hm i, mem_insertIndex]
      simp only [List.mem_cons, exists_eq_or_imp]
      rw [eq_comm (a := i), or_assoc, or_left_comm]

theorem pairwise_indices (fs : List CallFragment) : (indices fs).Pairwise (· < ·) :=
  (foldl_insertIndex List.Pairwise.nil).1

theorem mem_indices : i ∈ indices fs ↔ ∃ f ∈ fs, f.index = i := by
  rw [indices, (foldl_insertIndex List.Pairwise.nil).2 i, or_iff_right List.not_mem_nil]

theorem indices_eq_nil_iff : indices fs = [] ↔ fs = [] := by
  constructor
  · intro h
    rw [List.eq_nil_iff_forall_not_mem]
    intro f hf
    have hm : f.index ∈ indices fs := mem_indices.2 ⟨f, hf, rfl⟩
    rw [h] at hm
    cases hm
  · rintro rfl
    rfl

theorem piecesAt_concat_self : piecesAt f.index (fs ++ [f]) = piecesAt f.index fs ++ [f] := by
  simp [piecesAt]

theorem piecesAt_concat_of_ne (h : i ≠ f.index) : piecesAt i (fs ++ [f]) = piecesAt i fs := by
  simp [piecesAt, Ne.symm h]

theorem callAt_concat_self : callAt f.index (fs ++ [f]) = (callAt f.index fs).add f := by
  simp only [callAt, idAt, nameAt, argumentsAt, piecesAt_concat_self]
  generalize piecesAt f.index fs = ps
  obtain ⟨index, id, type, function⟩ := f
  cases id <;> cases function <;> simp [OpenCall.add, String.ofList_append]

theorem callAt_concat_of_ne (h : i ≠ f.index) : callAt i (fs ++ [f]) = callAt i fs := by
  rw [callAt, idAt, nameAt, argumentsAt, piecesAt_concat_of_ne h]
  rfl

theorem callAt_of_not_mem (h : i ∉ indices fs) : callAt i fs = {} := by
  have hp : piecesAt i fs = [] := by
    rw [piecesAt, List.filter_eq_nil_iff]
    exact fun f hf he => h (mem_indices.2 ⟨f, hf, of_decide_eq_true he⟩)
  rw [callAt, idAt, nameAt, argumentsAt, hp]
  rfl

theorem map_of_not_mem {g : UInt32 → OpenCall} (h : f.index ∉ is) :
    is.map (fun i => (i, g i)) =
      is.map fun i => (i, if i = f.index then (g i).add f else g i) := by
  apply List.map_congr_left
  intro i hi
  have hne : i ≠ f.index := by
    rintro rfl
    exact h hi
  rw [if_neg hne]

theorem addFragment_map {g : UInt32 → OpenCall} (h : is.Pairwise (· < ·))
    (hg : f.index ∉ is → g f.index = {}) :
    Turn.addFragment f (is.map fun i => (i, g i)) =
      (insertIndex f.index is).map fun i => (i, if i = f.index then (g i).add f else g i) := by
  induction is with
  | nil =>
      have he : g f.index = {} := hg List.not_mem_nil
      simp [Turn.addFragment, insertIndex, he]
  | cons i is ih =>
      obtain ⟨hi, his⟩ := List.pairwise_cons.1 h
      rw [List.map_cons, Turn.addFragment, insertIndex]
      by_cases hlt : f.index < i
      · have hn : f.index ∉ i :: is := by
          intro hm
          rcases List.mem_cons.1 hm with he | hm
          · exact UInt32.lt_irrefl i (he ▸ hlt)
          · exact UInt32.lt_irrefl i (UInt32.lt_trans (hi _ hm) hlt)
        rw [if_pos hlt, if_pos hlt, List.map_cons, if_pos rfl, hg hn, ← map_of_not_mem hn]
        rfl
      · by_cases he : f.index = i
        · have hn : f.index ∉ is := by
            intro hm
            exact UInt32.lt_irrefl i (he ▸ hi _ hm)
          rw [if_neg hlt, if_neg hlt, if_pos he, if_pos he, List.map_cons, if_pos he.symm,
            map_of_not_mem hn]
        · have hgis : f.index ∉ is → g f.index = {} := by
            intro hn
            refine hg fun hm => ?_
            rcases List.mem_cons.1 hm with hm | hm
            · exact he hm
            · exact hn hm
          rw [if_neg hlt, if_neg hlt, if_neg he, if_neg he, List.map_cons, ih his hgis,
            if_neg (Ne.symm he)]

theorem addFragment_table : Turn.addFragment f (table fs) = table (fs ++ [f]) := by
  rw [table, addFragment_map (pairwise_indices fs) callAt_of_not_mem, table, indices_concat]
  apply List.map_congr_left
  intro i _
  by_cases hi : i = f.index
  · rw [if_pos hi, hi, callAt_concat_self]
  · rw [if_neg hi, callAt_concat_of_ne hi]

end ChatTurn.Remote
