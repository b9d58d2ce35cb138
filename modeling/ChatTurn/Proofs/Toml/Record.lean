import ChatTurn.Config.Reader
import ChatTurn.Proofs.Toml.Difference

namespace ChatTurn.Toml

open Ordered (get? keys)

variable {s s' name k : String} {path : Path} {step : Step} {names : List String} {exact : Bool}
  {es fs : Entries} {i j : Item}

/-- A field of a record is found by its name or, in an array, by its place. -/
inductive Step.Names (names : List String) (name : String) : Step → Prop
  | key : Step.Names names name (.key name)
  | index {n : Nat} (h : names[n]? = some name) : Step.Names names name (.index n)

namespace Entries.Differ

theorem get?_self (h : Entries.Differ s s' (.key k :: path) es fs) :
    ∃ i j, get? k es = some i ∧ get? k fs = some j ∧ Item.Differ s s' path i j := by
  rcases h.get?_cases k with ⟨rest, i, j, he, hi, hj, hij⟩ | ⟨hne, -⟩
  · cases he
    exact ⟨i, j, hi, hj, hij⟩
  · exact absurd rfl hne

theorem get?_of_ne (h : Entries.Differ s s' (.key k :: path) es fs) {k' : String} (hk : k' ≠ k) :
    get? k' es = get? k' fs := by
  rcases h.get?_cases k' with ⟨rest, i, j, he, -⟩ | ⟨-, he⟩
  · cases he
    exact absurd rfl hk
  · exact he

theorem filter (h : Entries.Differ s s' (.key k :: path) es fs) {p : String → Bool} (hp : p k = true) :
    Entries.Differ s s' (.key k :: path) (es.filter (p ·.1)) (fs.filter (p ·.1)) := by
  obtain @⟨_, i, j, _, before, hk, hij, after⟩ := h
  rw [List.filter_append, List.filter_append, List.filter_cons_of_pos (by exact hp),
    List.filter_cons_of_pos (by exact hp)]
  refine .entry _ (fun hm => hk ?_) hij _
  obtain ⟨e, he, rfl⟩ := List.mem_map.1 hm
  exact List.mem_map_of_mem (List.mem_of_mem_filter he)

end Entries.Differ

theorem Item.Differ.items? {n : Nat} (h : Item.Differ s s' (.index n :: path) i j) :
    ∃ before u v after, before.length = n ∧ i.items? = some (before ++ u :: after) ∧
      j.items? = some (before ++ v :: after) ∧ Item.Differ s s' path u v := by
  generalize hp : Step.index n :: path = whole at h
  cases h with
  | here => cases hp
  | array before h after =>
      cases hp
      exact ⟨before, _, _, after, rfl, rfl, rfl, h⟩
  | table o h =>
      cases h
      cases hp
  | tables before h after =>
      cases hp
      refine ⟨before.map (.table .header ·), _, _, after.map (.table .header ·), List.length_map ..,
        ?_, ?_, .table .header h⟩
      · rw [Item.items?, List.map_append, List.map_cons]
      · rw [Item.items?, List.map_append, List.map_cons]

theorem differ_zip {n : Nat} {before after : List Item} (hnames : names.Nodup)
    (hn : names[n]? = some name) (hb : before.length = n) (h : Item.Differ s s' path i j) :
    Entries.Differ s s' (.key name :: path) (names.zip (before ++ i :: after))
      (names.zip (before ++ j :: after)) := by
  obtain ⟨hlt, hget⟩ := List.getElem?_eq_some_iff.1 hn
  have hsplit : names = names.take n ++ name :: names.drop (n + 1) := by
    rw [← hget, ← List.drop_eq_getElem_cons hlt, List.take_append_drop]
  have hlen : (names.take n).length = before.length := by
    rw [List.length_take, hb]
    omega
  have hzip : ∀ u : Item, names.zip (before ++ u :: after) =
      (names.take n).zip before ++ (name, u) :: (names.drop (n + 1)).zip after := by
    intro u
    conv_lhs => rw [hsplit]
    rw [List.zip_append hlen, List.zip_cons_cons]
  rw [hzip, hzip]
  refine .entry _ ?_ h _
  rw [Ordered.keys, List.map_fst_zip hlen.le]
  rw [hsplit, List.nodup_append] at hnames
  exact fun hm => hnames.2.2 name hm name List.mem_cons_self rfl

theorem Item.Differ.not_table {n : Nat} (h : Item.Differ s s' (.index n :: path) i j) (o : Origin) :
    i ≠ .table o es ∧ j ≠ .table o es := by
  generalize hp : Step.index n :: path = whole at h
  cases h with
  | here => cases hp
  | array => exact ⟨nofun, nofun⟩
  | table o h =>
      cases h
      cases hp
  | tables => exact ⟨nofun, nofun⟩

theorem exists_of_record? (hi : i.record? names exact = some es) :
    (∃ o, i = .table o es) ∨ ∃ is, i.items? = some is ∧ es = names.zip is := by
  unfold Item.record? at hi
  split at hi
  · next o es' =>
      split at hi
      · cases hi
        exact .inl ⟨o, rfl⟩
      · cases hi
  · obtain ⟨is, his, hi⟩ := Option.bind_eq_some_iff.1 hi
    split at hi
    · cases hi
    · cases hi
      exact .inr ⟨is, his, rfl⟩

theorem record?_table {o : Origin} (h : (Item.table o es).record? names exact = some fs) : fs = es := by
  unfold Item.record? at h
  split at h
  · next he =>
      split at h
      · cases h
        cases he
        rfl
      · cases h
  · next hn => exact absurd rfl (hn o es)

theorem Item.Differ.record? (h : Item.Differ s s' (step :: path) i j) (hnames : names.Nodup)
    (hstep : step.Names names name) (hi : i.record? names exact = some es)
    (hj : j.record? names exact = some fs) : Entries.Differ s s' (.key name :: path) es fs := by
  cases hstep with
  | key =>
      generalize hp : Step.key name :: path = whole at h
      cases h with
      | here => cases hp
      | array => cases hp
      | table o h =>
          subst hp
          rw [record?_table hi, record?_table hj]
          exact h
      | tables => cases hp
  | index hn =>
      rcases exists_of_record? hi with ⟨o, rfl⟩ | ⟨is, his, rfl⟩
      · exact absurd rfl (h.not_table o).1
      rcases exists_of_record? hj with ⟨o, rfl⟩ | ⟨js, hjs, rfl⟩
      · exact absurd rfl (h.not_table o).2
      obtain ⟨before, u, v, after, hb, hu, hv, huv⟩ := h.items?
      cases his.symm.trans hu
      cases hjs.symm.trans hv
      exact differ_zip hnames hn hb huv

theorem Item.Differ.eq_string (h : Item.Differ s s' [] i j) : i = .string s ∧ j = .string s' := by
  cases h with
  | here => exact ⟨rfl, rfl⟩
  | table o h => cases h

variable {α : Type} {read : Item → Option α} {d : α}

theorem requiredField_congr (h : get? name es = get? name fs) :
    requiredField read name es = requiredField read name fs := by
  rw [requiredField, requiredField, h]

theorem optionalField_congr (h : get? name es = get? name fs) :
    optionalField read name es = optionalField read name fs := by
  rw [optionalField, optionalField, h]

theorem fieldOr_congr (h : get? name es = get? name fs) :
    fieldOr d read name es = fieldOr d read name fs := by
  rw [fieldOr, fieldOr, optionalField_congr h]

theorem requiredField_of_get? (h : get? name es = some i) : requiredField read name es = read i := by
  rw [requiredField, h]
  rfl

theorem optionalField_of_get? (h : get? name es = some i) :
    optionalField read name es = (read i).map some := by
  rw [optionalField, h]

theorem fieldOr_of_get? (h : get? name es = some i) : fieldOr d read name es = read i := by
  rw [fieldOr, optionalField_of_get? h]
  cases read i <;> rfl

end ChatTurn.Toml
