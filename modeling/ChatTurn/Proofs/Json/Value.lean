import ChatTurn.Proofs.Json.Double
import ChatTurn.Proofs.Tool.Same
import Mathlib.Data.List.Induction

namespace ChatTurn

namespace Double

variable {x : Double}

theorem isNaN_ofMagnitude (negative : Bool) {n : Nat} (h : n ≤ infinity) :
    (ofMagnitude negative n).isNaN = false := by
  rw [isNaN, magnitude_ofMagnitude negative h]
  exact decide_eq_false (Nat.not_lt.2 h)

theorem isNaN_of_isFinite (h : x.isFinite = true) : x.isNaN = false :=
  decide_eq_false (Nat.not_lt.2 (Nat.le_of_lt (of_decide_eq_true h)))

theorem nearest_le (num den : Nat) : nearest num den ≤ infinity := by
  rw [nearest]
  split
  · exact Nat.zero_le _
  · exact Nat.min_le_right _ _

theorem isNaN_ofRatio (negative : Bool) (num den : Nat) :
    (ofRatio negative num den).isNaN = false := isNaN_ofMagnitude _ (nearest_le _ _)

theorem isNaN_ofDecimal (negative : Bool) (digits : Nat) (exponent : Int) :
    (ofDecimal negative digits exponent).isNaN = false := by
  rw [ofDecimal]
  split
  · exact isNaN_ofMagnitude _ (Nat.zero_le _)
  · split
    · exact isNaN_ofMagnitude _ (Nat.le_refl _)
    · exact isNaN_ofRatio _ _ _

theorem isNaN_of_ofDigits? {negative : Bool} {cs : List Char}
    (h : ofDigits? negative cs = some x) : x.isNaN = false := by
  simp only [ofDigits?] at h
  split at h
  all_goals
    split at h
    · cases h
    · obtain ⟨e, -, he⟩ := Option.bind_eq_some_iff.1 h
      cases he
      exact isNaN_ofDecimal _ _ _

end Double

namespace Json

theorem Literal.proper_of_number? {l : Literal} {n : Number} (h : l.number? = some n) :
    (Argument.ofNumber n).Proper := by
  have hn := isReadable_of_number? h
  cases n with
  | integer i =>
      rw [Argument.ofNumber]
      split
      · exact .integer _
      · exact .float (Double.isNaN_of_isFinite hn.ofInt)
  | double x => exact .float (Double.isNaN_of_isFinite hn)

end Json

namespace Ordered

variable {α : Type} {d : Ordered α} {k : String} {v : α}

theorem mem_put {e : String × α} (h : e ∈ put k v d) : e = (k, v) ∨ e ∈ d := by
  induction d with
  | nil => exact .inl (List.mem_singleton.1 h)
  | cons entry d ih =>
      obtain ⟨k', v'⟩ := entry
      rw [put] at h
      split at h
      · next hk =>
          rcases List.mem_cons.1 h with he | hm
          · exact .inl (hk ▸ he)
          · exact .inr (List.mem_cons_of_mem _ hm)
      · rcases List.mem_cons.1 h with he | hm
        · exact .inr (he ▸ List.mem_cons_self)
        · exact (ih hm).imp_right (List.mem_cons_of_mem _)

theorem ofList_concat (es : List (String × α)) (e : String × α) :
    ofList (es ++ [e]) = put e.1 e.2 (ofList es) := by
  rw [ofList, List.foldl_append]
  rfl

theorem nodup_keys_ofList (es : List (String × α)) : (keys (ofList es)).Nodup := by
  induction es using List.reverseRecOn with
  | nil => exact List.nodup_nil
  | append_singleton es e ih =>
      rw [ofList_concat]
      exact nodup_keys_put _ _ ih

theorem mem_of_mem_ofList {es : List (String × α)} {e : String × α} (h : e ∈ ofList es) :
    e ∈ es := by
  induction es using List.reverseRecOn with
  | nil => exact h
  | append_singleton es d ih =>
      rw [ofList_concat] at h
      rcases mem_put h with rfl | hm
      · exact List.mem_append_right _ List.mem_cons_self
      · exact List.mem_append_left _ (ih hm)

end Ordered

namespace Argument

theorem ofValues_eq (vs : List Json.Value) : ofValues vs = vs.map ofValue := by
  induction vs with
  | nil => rfl
  | cons v vs ih => rw [ofValues, ih, List.map_cons]

theorem ofMembers_eq (ms : List (String × Json.Value)) :
    ofMembers ms = ms.map fun m => (m.1, ofValue m.2) := by
  induction ms with
  | nil => rfl
  | cons m ms ih => rw [ofMembers, ih, List.map_cons]

theorem proper_ofValue_array {vs : List Json.Value} (h : ∀ v ∈ vs, (ofValue v).Proper) :
    (ofValue (.array vs)).Proper := by
  rw [ofValue, ofValues_eq]
  exact .list (List.forall_mem_map.2 h)

theorem proper_ofValue_object {ms : List (String × Json.Value)} (hk : (Ordered.keys ms).Nodup)
    (h : ∀ m ∈ ms, (ofValue m.2).Proper) : (ofValue (.object ms)).Proper := by
  rw [ofValue, ofMembers_eq]
  refine .map ?_ (List.forall_mem_map.2 h)
  rw [Ordered.keys, List.map_map]
  exact hk

theorem proper_of_get? {ms : List (String × Json.Value)} {k : String} {v : Json.Value}
    (h : (ofValue (.object ms)).Proper) (hk : Ordered.get? k ms = some v) :
    (ofValue v).Proper := by
  rw [ofValue, ofMembers_eq] at h
  cases h with
  | map _ he => exact List.forall_mem_map.1 he _ (Ordered.mem_of_get? hk)

theorem proper_put {as : Arguments} {a : Argument} (h : (map as).Proper) (k : String)
    (ha : a.Proper) : (map (Ordered.put k a as)).Proper := by
  cases h with
  | map hk he =>
      refine .map (Ordered.nodup_keys_put k a hk) fun e hm => ?_
      rcases Ordered.mem_put hm with rfl | hm
      · exact ha
      · exact he e hm

theorem proper_map_nil : (map []).Proper := .map List.nodup_nil (List.forall_mem_nil _)

end Argument

namespace Json

/-- What a node under `depth` containers can mean. -/
inductive Value.IsRead : Nat → Value → Prop
  | null {depth : Nat} : IsRead depth null
  | bool {depth : Nat} (b : Bool) : IsRead depth (bool b)
  | number {depth : Nat} {l : Literal} {n : Number} (h : l.number? = some n) : IsRead depth (number n)
  | string {depth : Nat} (s : String) : IsRead depth (string s)
  | array {depth : Nat} {vs : List Value} (hd : depth + 1 < maxDepth)
    (h : ∀ v ∈ vs, IsRead (depth + 1) v) : IsRead depth (array vs)
  | object {depth : Nat} {ms : List (String × Value)} (hd : depth + 1 < maxDepth)
    (hk : (Ordered.keys ms).Nodup) (h : ∀ m ∈ ms, IsRead (depth + 1) m.2) : IsRead depth (object ms)

mutual

theorem Node.isRead_of_value? {depth : Nat} {v : Value} :
    (n : Node) → n.value? depth = some v → v.IsRead depth
  | .null, h => by
      cases h
      exact .null
  | .bool b, h => by
      cases h
      exact .bool b
  | .number l, h => by
      obtain ⟨n, hn, rfl⟩ := Option.map_eq_some_iff.1 h
      exact .number hn
  | .string s, h => by
      obtain ⟨t, -, rfl⟩ := Option.map_eq_some_iff.1 h
      exact .string t
  | .array items, h => by
      rw [Node.value?] at h
      obtain ⟨hd, h⟩ := Option.ite_none_right_eq_some.1 h
      obtain ⟨vs, hvs, rfl⟩ := Option.map_eq_some_iff.1 h
      exact .array hd (Node.isRead_of_values? items hvs)
  | .object members, h => by
      rw [Node.value?] at h
      obtain ⟨hd, h⟩ := Option.ite_none_right_eq_some.1 h
      obtain ⟨es, hes, rfl⟩ := Option.map_eq_some_iff.1 h
      exact .object hd (Ordered.nodup_keys_ofList es) fun m hm =>
        Node.isRead_of_entries? members hes m (Ordered.mem_of_mem_ofList hm)

theorem Node.isRead_of_values? {depth : Nat} {vs : List Value} :
    (ns : List Node) → Node.values? depth ns = some vs → ∀ v ∈ vs, v.IsRead depth
  | [], h => by
      cases h
      exact List.forall_mem_nil _
  | n :: ns, h => by
      obtain ⟨v, hv, h⟩ := Option.bind_eq_some_iff.1 h
      obtain ⟨ws, hws, h⟩ := Option.bind_eq_some_iff.1 h
      cases h
      exact List.forall_mem_cons.2 ⟨Node.isRead_of_value? n hv, Node.isRead_of_values? ns hws⟩

theorem Node.isRead_of_entries? {depth : Nat} {es : List (String × Value)} :
    (ms : List (Option String × Node)) → Node.entries? depth ms = some es →
      ∀ e ∈ es, e.2.IsRead depth
  | [], h => by
      cases h
      exact List.forall_mem_nil _
  | (k, n) :: ms, h => by
      obtain ⟨k, -, h⟩ := Option.bind_eq_some_iff.1 h
      obtain ⟨v, hv, h⟩ := Option.bind_eq_some_iff.1 h
      obtain ⟨fs, hfs, h⟩ := Option.bind_eq_some_iff.1 h
      cases h
      exact List.forall_mem_cons.2 ⟨Node.isRead_of_value? n hv, Node.isRead_of_entries? ms hfs⟩

end

theorem Value.IsRead.proper {depth : Nat} {v : Value} (h : v.IsRead depth) :
    (Argument.ofValue v).Proper := by
  induction h with
  | null => exact .null
  | bool b => exact .bool b
  | number h => exact Literal.proper_of_number? h
  | string s => exact .string s
  | array _ _ ih => exact Argument.proper_ofValue_array ih
  | object _ hk _ ih => exact Argument.proper_ofValue_object hk ih

theorem proper_of_parseValue? {cs : List Char} {v : Value} (h : parseValue? cs = some v) :
    (Argument.ofValue v).Proper := by
  obtain ⟨n, -, hn⟩ := Option.bind_eq_some_iff.1 h
  exact (n.isRead_of_value? hn).proper

end Json

end ChatTurn
