import ChatTurn.Tool.Call
import Mathlib.Data.List.Perm.Subperm

namespace ChatTurn

namespace Ordered

variable {α : Type} {d : Ordered α} {k : String} {v : α}

theorem mem_of_get? (h : get? k d = some v) : (k, v) ∈ d := by
  induction d with
  | nil => cases h
  | cons entry d ih =>
      obtain ⟨k', v'⟩ := entry
      rw [get?] at h
      split at h
      · next hk =>
          cases h
          exact hk ▸ List.mem_cons_self
      · exact List.mem_cons_of_mem _ (ih h)

theorem get?_of_mem (hd : (keys d).Nodup) (h : (k, v) ∈ d) : get? k d = some v := by
  induction d with
  | nil => cases h
  | cons entry d ih =>
      obtain ⟨k', v'⟩ := entry
      rw [keys, List.map_cons, List.nodup_cons] at hd
      rw [get?]
      rcases List.mem_cons.1 h with he | hm
      · cases he
        exact if_pos rfl
      · have hne : k' ≠ k := by
          rintro rfl
          exact hd.1 (List.mem_map.2 ⟨_, hm, rfl⟩)
        rw [if_neg hne, ih hd.2 hm]

theorem mem_keys_iff : k ∈ keys d ↔ ∃ v, (k, v) ∈ d := by
  simp [keys]

end Ordered

namespace Argument

/-- Keys of maps are distinct, and floats are numbers. -/
inductive Proper : Argument → Prop
  | null : Proper null
  | bool (b : Bool) : Proper (bool b)
  | integer (n : Int64) : Proper (integer n)
  | float {x : Double} (hx : x.isNaN = false) : Proper (float x)
  | string (s : String) : Proper (string s)
  | list {items : List Argument} (hi : ∀ a ∈ items, Proper a) : Proper (list items)
  | map {entries : List (String × Argument)} (hk : (Ordered.keys entries).Nodup)
      (he : ∀ e ∈ entries, Proper e.2) : Proper (map entries)

variable {a b c : Argument} {as bs : List (String × Argument)}

theorem sameList_iff {as bs : List Argument} : sameList as bs = true ↔ as.length = bs.length ∧
    ∀ i (h : i < as.length) (h' : i < bs.length), same as[i] bs[i] = true := by
  induction as generalizing bs with
  | nil => cases bs <;> simp [sameList]
  | cons a as ih =>
      cases bs with
      | nil => simp [sameList]
      | cons b bs =>
          rw [sameList, Bool.and_eq_true, ih]
          constructor
          · rintro ⟨hab, hl, hs⟩
            refine ⟨congrArg Nat.succ hl, fun i h h' => ?_⟩
            cases i with
            | zero => exact hab
            | succ i => exact hs i (Nat.lt_of_succ_lt_succ h) (Nat.lt_of_succ_lt_succ h')
          · rintro ⟨hl, hs⟩
            exact ⟨hs 0 (Nat.succ_pos _) (Nat.succ_pos _), Nat.succ.inj hl,
              fun i h h' => hs (i + 1) (Nat.succ_lt_succ h) (Nat.succ_lt_succ h')⟩

theorem sameEntries_iff : sameEntries as bs = true ↔
    ∀ e ∈ as, ∃ b, Ordered.get? e.1 bs = some b ∧ same e.2 b = true := by
  induction as with
  | nil => simp [sameEntries]
  | cons e as ih =>
      obtain ⟨k, a⟩ := e
      rw [sameEntries, Bool.and_eq_true, ih, List.forall_mem_cons]
      refine and_congr_left fun _ => ?_
      cases Ordered.get? k bs <;> simp

theorem same_map_iff : same (map as) (map bs) = true ↔ as.length = bs.length ∧
    ∀ e ∈ as, ∃ b, Ordered.get? e.1 bs = some b ∧ same e.2 b = true := by
  rw [same, Bool.and_eq_true, beq_iff_eq, sameEntries_iff]

theorem Proper.same_self (h : Proper a) : same a a = true := by
  induction h with
  | null => rfl
  | bool b => simp [same]
  | integer n => simp [same]
  | float hx => simp [same, Double.same, hx]
  | string s => simp [same]
  | list hi ih => exact sameList_iff.2 ⟨rfl, fun i h _ => ih _ (List.getElem_mem h)⟩
  | map hk he ih =>
      exact same_map_iff.2 ⟨rfl, fun e hm => ⟨e.2, Ordered.get?_of_mem hk hm, ih e hm⟩⟩

theorem keys_subset_of_length (hk : (Ordered.keys as).Nodup) (hl : as.length = bs.length)
    (hs : Ordered.keys as ⊆ Ordered.keys bs) : Ordered.keys bs ⊆ Ordered.keys as := by
  have hlen : (Ordered.keys bs).length ≤ (Ordered.keys as).length := by
    simp [Ordered.keys, hl]
  exact ((hk.subperm hs).perm_of_length_le hlen).symm.subset

theorem Proper.same_symm (ha : Proper a) (hb : Proper b) (h : same a b = true) :
    same b a = true := by
  induction ha generalizing b with
  | null => cases b <;> simp_all [same]
  | bool x => cases b <;> simp_all [same]
  | integer n => cases b <;> simp_all [same]
  | float hx => cases b <;> simp_all [same, Double.same]
  | string s => cases b <;> simp_all [same]
  | list hi ih =>
      cases hb with
      | list hj =>
          obtain ⟨hl, hs⟩ := sameList_iff.1 h
          exact sameList_iff.2 ⟨hl.symm, fun i h h' =>
            ih _ (List.getElem_mem h') (hj _ (List.getElem_mem h)) (hs i h' h)⟩
      | _ => cases h
  | map hk he ih =>
      cases hb with
      | map hj hf =>
          obtain ⟨hl, hs⟩ := same_map_iff.1 h
          have hkeys := keys_subset_of_length hk hl fun k hm => by
            obtain ⟨a, hm⟩ := Ordered.mem_keys_iff.1 hm
            obtain ⟨b, hb, -⟩ := hs _ hm
            exact Ordered.mem_keys_iff.2 ⟨b, Ordered.mem_of_get? hb⟩
          refine same_map_iff.2 ⟨hl.symm, fun ⟨k, b⟩ hm => ?_⟩
          obtain ⟨a, ha⟩ := Ordered.mem_keys_iff.1 (hkeys (Ordered.mem_keys_iff.2 ⟨b, hm⟩))
          obtain ⟨b', hb', hab⟩ := hs _ ha
          rw [Ordered.get?_of_mem hj hm] at hb'
          cases hb'
          exact ⟨a, Ordered.get?_of_mem hk ha, ih _ ha (hf _ hm) hab⟩
      | _ => cases h

theorem Proper.same_trans (ha : Proper a) (hab : same a b = true) (hbc : same b c = true) :
    same a c = true := by
  induction ha generalizing b c with
  | null => cases b <;> cases c <;> simp_all [same]
  | bool x => cases b <;> cases c <;> simp_all [same]
  | integer n => cases b <;> cases c <;> simp_all [same]
  | float hx => cases b <;> cases c <;> simp_all [same, Double.same]
  | string s => cases b <;> cases c <;> simp_all [same]
  | list hi ih =>
      match b, c, hab, hbc with
      | .list bs, .list cs, hab, hbc =>
        obtain ⟨hl, hs⟩ := sameList_iff.1 hab
        obtain ⟨hl', hs'⟩ := sameList_iff.1 hbc
        refine sameList_iff.2 ⟨hl.trans hl', fun i h h' => ?_⟩
        have hi := hl ▸ h
        exact ih _ (List.getElem_mem h) (hs i h hi) (hs' i hi h')
  | map hk he ih =>
      match b, c, hab, hbc with
      | .map bs, .map cs, hab, hbc =>
        obtain ⟨hl, hs⟩ := same_map_iff.1 hab
        obtain ⟨hl', hs'⟩ := same_map_iff.1 hbc
        refine same_map_iff.2 ⟨hl.trans hl', fun e hm => ?_⟩
        obtain ⟨b, hb, hab⟩ := hs e hm
        obtain ⟨c, hc, hbc⟩ := hs' _ (Ordered.mem_of_get? hb)
        exact ⟨c, hc, ih e hm hab hbc⟩

end Argument

namespace Invocation

def Proper (i : Invocation) : Prop := (Argument.map i.arguments).Proper

variable {i j k : Invocation}

theorem same_iff : i.same j = true ↔
    i.name = j.name ∧ Argument.same (.map i.arguments) (.map j.arguments) = true := by
  rw [same, Bool.and_eq_true, beq_iff_eq]
  rfl

theorem Proper.same_self (hi : i.Proper) : i.same i = true :=
  same_iff.2 ⟨rfl, Argument.Proper.same_self hi⟩

theorem Proper.same_symm (hi : i.Proper) (hj : j.Proper) (h : i.same j = true) :
    j.same i = true := by
  obtain ⟨hn, ha⟩ := same_iff.1 h
  exact same_iff.2 ⟨hn.symm, Argument.Proper.same_symm hi hj ha⟩

theorem Proper.same_trans (hi : i.Proper) (h : i.same j = true) (h' : j.same k = true) :
    i.same k = true := by
  obtain ⟨hn, ha⟩ := same_iff.1 h
  obtain ⟨hn', ha'⟩ := same_iff.1 h'
  exact same_iff.2 ⟨hn.trans hn', Argument.Proper.same_trans hi ha ha'⟩

/-- A call is in the class of another, or it is the same as none of that class. -/
theorem Proper.same_congr (hi : i.Proper) (hj : j.Proper) (h : i.same j = true)
    (k : Invocation) : i.same k = j.same k := by
  rw [Bool.eq_iff_iff]
  exact ⟨hj.same_trans (hi.same_symm hj h), hi.same_trans h⟩

end Invocation

end ChatTurn
