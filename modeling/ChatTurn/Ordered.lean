namespace ChatTurn

abbrev Ordered (α : Type) := List (String × α)

namespace Ordered

variable {α : Type}

def get? (key : String) : Ordered α → Option α
  | [] => none
  | (k, v) :: rest => if k = key then some v else get? key rest

def put (key : String) (value : α) : Ordered α → Ordered α
  | [] => [(key, value)]
  | (k, v) :: rest => if k = key then (k, value) :: rest else (k, v) :: put key value rest

def keys (d : Ordered α) : List String := d.map Prod.fst

def ofList (entries : List (String × α)) : Ordered α :=
  entries.foldl (fun d (k, v) => put k v d) []

theorem get?_put (d : Ordered α) (key k : String) (value : α) :
    get? k (put key value d) = if key = k then some value else get? k d := by
  induction d with
  | nil => simp [put, get?]
  | cons entry rest ih =>
      obtain ⟨k', v'⟩ := entry
      by_cases h : k' = key
      · subst h
        by_cases hk : k' = k <;> simp [put, get?, hk]
      · by_cases hk : k' = k
        · subst hk
          simp [put, get?, h, Ne.symm h]
        · simp [put, get?, h, hk, ih]

theorem mem_keys_put {d : Ordered α} {key k : String} {value : α} :
    k ∈ keys (put key value d) ↔ k = key ∨ k ∈ keys d := by
  induction d with
  | nil => simp [put, keys]
  | cons entry rest ih =>
      obtain ⟨k', v'⟩ := entry
      by_cases h : k' = key
      · subst h
        simp [put, keys]
      · simp only [keys] at ih
        simp only [put, h, if_false, keys, List.map_cons, List.mem_cons, ih]
        grind

theorem nodup_keys_put {d : Ordered α} (key : String) (value : α) (h : (keys d).Nodup) :
    (keys (put key value d)).Nodup := by
  induction d with
  | nil => simp [put, keys]
  | cons entry rest ih =>
      obtain ⟨k', v'⟩ := entry
      simp only [keys, List.map_cons, List.nodup_cons] at h
      by_cases hk : k' = key
      · subst hk
        simpa [put, keys] using h
      · have hne : k' ∉ keys (put key value rest) := by
          rw [mem_keys_put]
          exact fun hm => hm.elim hk h.1
        simp only [put, hk, if_false, keys, List.map_cons, List.nodup_cons]
        exact ⟨hne, ih h.2⟩

end Ordered

end ChatTurn
