import ChatTurn.Proofs.Ordered
import ChatTurn.Proofs.Text.Occurrence
import ChatTurn.Provider.Registry
import Mathlib.Data.List.Infix

namespace ChatTurn

variable {σ : Type}

structure Registration (σ : Type) where
  provider : Provider σ
  models : List String

namespace Registration

variable {xs ys : List (Registration σ)} {x y : Registration σ} {p q m s : String}

def name (x : Registration σ) : String := x.provider.name

def IsNew (ys : List (Registration σ)) (x : Registration σ) : Prop :=
  ∀ y ∈ ys, y.name ≠ x.name ∧ ∀ m ∈ x.models, m ∉ y.models

instance (ys : List (Registration σ)) (x : Registration σ) : Decidable (IsNew ys x) :=
  inferInstanceAs (Decidable (∀ y ∈ ys, y.name ≠ x.name ∧ ∀ m ∈ x.models, m ∉ y.models))

/-- The registrations that count: each is new beside those that count before it. -/
def accepted (xs : List (Registration σ)) : List (Registration σ) :=
  xs.foldl (fun ys x => if IsNew ys x then ys ++ [x] else ys) []

def Knows (ys : List (Registration σ)) (p : String) : Prop := ∃ y ∈ ys, y.name = p

def Serves (ys : List (Registration σ)) (p m : String) : Prop :=
  ∃ y ∈ ys, y.name = p ∧ m ∈ y.models

/-- What becomes of a request for `s`. A model by its own name comes first, and the name of a
provider ends at the first slash. -/
inductive Routes (ys : List (Registration σ)) (s : String) : Except Error Route → Prop
  | bare {p : String} (h : Serves ys p s) : Routes ys s (.ok ⟨p, s⟩)
  | qualified {q m : String} (hs : ∀ p, ¬ Serves ys p s) (he : s = q ++ "/" ++ m)
      (hq : '/' ∉ q.toList) (h : Serves ys q m) : Routes ys s (.ok ⟨q, m⟩)
  | noProvider {q m : String} (hs : ∀ p, ¬ Serves ys p s) (he : s = q ++ "/" ++ m)
      (hq : '/' ∉ q.toList) (h : ¬ Knows ys q) : Routes ys s (.error (.providerNotFound q))
  | noModel (hs : ∀ p, ¬ Serves ys p s)
      (h : ∀ q m, s = q ++ "/" ++ m → '/' ∉ q.toList → Knows ys q ∧ ¬ Serves ys q m) :
      Routes ys s (.error (.modelNotFound s))

theorem accepted_concat (xs : List (Registration σ)) (x : Registration σ) :
    accepted (xs ++ [x]) = if IsNew (accepted xs) x then accepted xs ++ [x] else accepted xs := by
  rw [accepted, List.foldl_append]
  rfl

theorem knows_concat : Knows (ys ++ [x]) p ↔ Knows ys p ∨ x.name = p := by
  simp only [Knows, List.mem_append, List.mem_singleton, or_and_right, exists_or,
    exists_eq_left]

theorem serves_concat : Serves (ys ++ [x]) p m ↔ Serves ys p m ∨ x.name = p ∧ m ∈ x.models := by
  simp only [Serves, List.mem_append, List.mem_singleton, or_and_right, exists_or,
    exists_eq_left]

theorem Serves.knows (h : Serves ys p m) : Knows ys p := by
  obtain ⟨y, hy, hp, -⟩ := h
  exact ⟨y, hy, hp⟩

theorem nodup_names (xs : List (Registration σ)) : ((accepted xs).map name).Nodup := by
  induction xs using List.reverseRecOn with
  | nil => exact List.nodup_nil
  | append_singleton xs x ih =>
      rw [accepted_concat]
      split
      · next hx =>
          rw [List.map_append, List.nodup_append]
          refine ⟨ih, List.pairwise_singleton _ _, fun p hp q hq => ?_⟩
          obtain ⟨y, hy, rfl⟩ := List.mem_map.1 hp
          rw [List.map_singleton, List.mem_singleton] at hq
          exact hq ▸ (hx y hy).1
      · exact ih

theorem serves_unique (hp : Serves (accepted xs) p m) (hq : Serves (accepted xs) q m) :
    p = q := by
  induction xs using List.reverseRecOn with
  | nil =>
      obtain ⟨y, hy, -⟩ := hp
      cases hy
  | append_singleton xs x ih =>
      rw [accepted_concat] at hp hq
      split at hp
      · next hx =>
          rw [if_pos hx] at hq
          have hnew : m ∈ x.models → ∀ p, ¬ Serves (accepted xs) p m := by
            rintro hm p ⟨y, hy, -, hmy⟩
            exact (hx y hy).2 m hm hmy
          rcases serves_concat.1 hp with hp | ⟨rfl, hm⟩
          · rcases serves_concat.1 hq with hq | ⟨-, hm⟩
            · exact ih hp hq
            · exact absurd hp (hnew hm p)
          · rcases serves_concat.1 hq with hq | ⟨hn, -⟩
            · exact absurd hq (hnew hm q)
            · exact hn
      · next hx =>
          rw [if_neg hx] at hq
          exact ih hp hq

end Registration

namespace Registry

open Registration (IsNew accepted Knows Serves Routes serves_concat knows_concat)

variable {r r' : Registry σ} {xs ys : List (Registration σ)} {x : Registration σ}
  {p q m s : String} {out : Except Error Route}

theorem splitPrefix?_eq_some_iff :
    splitPrefix? s = some (q, m) ↔ s = q ++ "/" ++ m ∧ '/' ∉ q.toList := by
  rw [splitPrefix?, Option.map_eq_some_iff]
  constructor
  · rintro ⟨⟨before, after⟩, hc, he⟩
    cases he
    have hs := Text.eq_of_cut? hc
    have hb := Text.not_isInfix_before (List.cons_ne_nil _ _) hc
    rw [List.singleton_infix_iff] at hb
    refine ⟨?_, by rwa [String.toList_ofList]⟩
    apply String.toList_injective
    rw [hs]
    simp
  · rintro ⟨rfl, hq⟩
    refine ⟨(q.toList, m.toList), ?_, by simp⟩
    have hs : (q ++ "/" ++ m).toList = q.toList ++ '/' :: m.toList := by simp
    rw [hs]
    exact Text.cut?_singleton hq _

theorem split_unique {q' m' : String} (he : s = q ++ "/" ++ m) (hq : '/' ∉ q.toList)
    (he' : s = q' ++ "/" ++ m') (hq' : '/' ∉ q'.toList) : q' = q ∧ m' = m := by
  have hc := splitPrefix?_eq_some_iff.2 ⟨he, hq⟩
  rw [splitPrefix?_eq_some_iff.2 ⟨he', hq'⟩] at hc
  cases hc
  exact ⟨rfl, rfl⟩

theorem served?_eq_none_iff {owners : Ordered String} {models : List String} :
    served? owners models = none ↔ ∀ m ∈ models, Ordered.get? m owners = none := by
  induction models with
  | nil => simp [served?]
  | cons m ms ih =>
      rw [served?, List.forall_mem_cons, ← ih]
      cases h : Ordered.get? m owners with
      | none => simp
      | some owner => simp

theorem foldl_own (r : Registry σ) (p : String) (models : List String) :
    models.foldl (own · p) r =
      { r with owners := models.foldl (fun owners m => Ordered.put m p owners) r.owners } := by
  induction models generalizing r with
  | nil => rfl
  | cons m ms ih => exact ih (r.own p m)

theorem get?_foldl_put (owners : Ordered String) (p : String) (models : List String) :
    Ordered.get? m (models.foldl (fun owners m => Ordered.put m p owners) owners) =
      if m ∈ models then some p else Ordered.get? m owners := by
  induction models generalizing owners with
  | nil => rfl
  | cons n ms ih =>
      rw [List.foldl_cons, ih, Ordered.get?_put]
      by_cases hm : m ∈ ms
      · simp [hm]
      · by_cases hn : n = m
        · simp [hn]
        · simp [hm, hn, Ne.symm hn]

theorem nodup_keys_foldl_put {owners : Ordered String} (h : (Ordered.keys owners).Nodup)
    (p : String) (models : List String) :
    (Ordered.keys (models.foldl (fun owners m => Ordered.put m p owners) owners)).Nodup := by
  induction models generalizing owners with
  | nil => exact h
  | cons m ms ih => exact ih (Ordered.nodup_keys_put m p h)

structure Holds (r : Registry σ) (ys : List (Registration σ)) : Prop where
  handles : r.handles = ys.map fun y => (y.name, { provider := y.provider })
  owner_iff : ∀ m p, Ordered.get? m r.owners = some p ↔ Serves ys p m
  nodup : (Ordered.keys r.owners).Nodup

theorem holds_nil : Holds ({} : Registry σ) [] := by
  refine ⟨rfl, fun m p => ?_, List.nodup_nil⟩
  simp [Ordered.get?, Serves]

namespace Holds

theorem mem_keys_iff (h : r.Holds ys) : p ∈ Ordered.keys r.handles ↔ Knows ys p := by
  simp [h.handles, Ordered.keys, Knows]

theorem isNew_iff (h : r.Holds ys) : IsNew ys x ↔
    x.name ∉ Ordered.keys r.handles ∧ served? r.owners x.models = none := by
  have hserves : ∀ m, Ordered.get? m r.owners = none ↔ ∀ y ∈ ys, m ∉ y.models := by
    intro m
    rw [Option.eq_none_iff_forall_ne_some]
    constructor
    · exact fun hn y hy hm => hn y.name ((h.owner_iff m _).2 ⟨y, hy, rfl, hm⟩)
    · rintro hn p hp
      obtain ⟨y, hy, -, hm⟩ := (h.owner_iff m p).1 hp
      exact hn y hy hm
  rw [h.mem_keys_iff, served?_eq_none_iff]
  simp only [hserves]
  constructor
  · intro hx
    refine ⟨?_, fun m hm y hy => (hx y hy).2 m hm⟩
    rintro ⟨y, hy, hn⟩
    exact (hx y hy).1 hn
  · rintro ⟨hk, hm⟩ y hy
    exact ⟨fun hn => hk ⟨y, hy, hn⟩, fun m hmx => hm m hmx y hy⟩

/-- A registration is taken exactly where it is new, and then it is added to the others. One that is
refused has not changed the registry. -/
theorem register_cases (h : r.Holds ys) (x : Registration σ) :
    (IsNew ys x ∧ ∃ r', r.register x.provider x.models = (r', .ok ()) ∧ r'.Holds (ys ++ [x])) ∨
      ¬ IsNew ys x ∧ ∃ fault, r.register x.provider x.models = (r, .error fault) := by
  rw [h.isNew_iff]
  by_cases hk : x.name ∈ Ordered.keys r.handles
  · have hs : (Ordered.get? x.provider.name r.handles).isSome = true := by
      rw [Option.isSome_iff_ne_none, ne_eq, Ordered.get?_eq_none_iff, not_not]
      exact hk
    exact .inr ⟨fun hn => hn.1 hk, _, by rw [register, if_pos hs]⟩
  · have hs : ¬ (Ordered.get? x.provider.name r.handles).isSome = true := by
      rw [Option.not_isSome_iff_eq_none, Ordered.get?_eq_none_iff]
      exact hk
    cases hm : served? r.owners x.models with
    | some taken =>
        exact .inr ⟨fun hn => (nomatch hn.2), _, by rw [register, if_neg hs, hm]⟩
    | none =>
        have hr : r.register x.provider x.models =
            ({ handles := Ordered.put x.name { provider := x.provider } r.handles
               owners := x.models.foldl (fun owners m => Ordered.put m x.name owners) r.owners },
              .ok ()) := by
          rw [register, if_neg hs, hm, foldl_own]
          rfl
        refine .inl ⟨⟨hk, rfl⟩, _, hr, ?_, fun m p => ?_, ?_⟩
        · rw [h.handles] at hk
          rw [h.handles, List.map_append]
          exact Ordered.put_of_not_mem hk
        · rw [get?_foldl_put, serves_concat, ← h.owner_iff]
          have hfree := served?_eq_none_iff.1 hm
          by_cases hmx : m ∈ x.models
          · simp [hmx, hfree m hmx, Registration.name]
          · simp [hmx]
        · exact nodup_keys_foldl_put h.nodup _ _

theorem mem_listModels (h : r.Holds ys) : (m, p) ∈ r.listModels ↔ Serves ys p m := by
  rw [listModels, List.mem_mergeSort, ← h.owner_iff]
  exact ⟨Ordered.get?_of_mem h.nodup, Ordered.mem_of_get?⟩

theorem routes (h : r.Holds ys) (s : String) : Routes ys s (r.resolve s) := by
  cases ho : Ordered.get? s r.owners with
  | some p =>
      rw [resolve, ho]
      exact .bare ((h.owner_iff s p).1 ho)
  | none =>
      have hs : ∀ p, ¬ Serves ys p s := by
        intro p hp
        rw [(h.owner_iff s p).2 hp] at ho
        cases ho
      cases hc : splitPrefix? s with
      | none =>
          rw [resolve, ho, hc]
          refine .noModel hs fun q m he hq => ?_
          rw [splitPrefix?_eq_some_iff.2 ⟨he, hq⟩] at hc
          cases hc
      | some cut =>
          obtain ⟨q, m⟩ := cut
          obtain ⟨he, hq⟩ := splitPrefix?_eq_some_iff.1 hc
          have hk : (Ordered.get? q r.handles).isNone = true ↔ ¬ Knows ys q := by
            rw [Option.isNone_iff_eq_none, Ordered.get?_eq_none_iff, h.mem_keys_iff]
          simp only [resolve, ho, hc]
          split
          · next hn => exact .noProvider hs he hq (hk.1 hn)
          · next hn =>
              split
              · next hm => exact .qualified hs he hq ((h.owner_iff m q).1 hm)
              · next hm =>
                  refine .noModel hs fun q' m' he' hq' => ?_
                  obtain ⟨rfl, rfl⟩ := split_unique he hq he' hq'
                  exact ⟨not_not.1 (mt hk.2 hn), mt (h.owner_iff m' q').2 hm⟩

end Holds

def offer (r : Registry σ) (x : Registration σ) : Registry σ := (r.register x.provider x.models).1

def after (xs : List (Registration σ)) : Registry σ := xs.foldl offer {}

theorem after_concat (xs : List (Registration σ)) (x : Registration σ) :
    after (xs ++ [x]) = (after xs).offer x := by
  rw [after, List.foldl_append]
  rfl

theorem holds_after (xs : List (Registration σ)) : (after xs).Holds (accepted xs) := by
  induction xs using List.reverseRecOn with
  | nil => exact holds_nil
  | append_singleton xs x ih =>
      rw [after_concat, Registration.accepted_concat, offer]
      rcases ih.register_cases x with ⟨hx, r', hr, h⟩ | ⟨hx, fault, hr⟩
      · rw [hr, if_pos hx]
        exact h
      · rw [hr, if_neg hx]
        exact ih

theorem routes_unique {a b : Except Error Route} (ha : Routes (accepted xs) s a)
    (hb : Routes (accepted xs) s b) : a = b := by
  cases ha with
  | bare h =>
      cases hb with
      | bare h' => rw [Registration.serves_unique h h']
      | qualified hs => exact absurd h (hs _)
      | noProvider hs => exact absurd h (hs _)
      | noModel hs => exact absurd h (hs _)
  | qualified hs he hq h =>
      cases hb with
      | bare h' => exact absurd h' (hs _)
      | qualified _ he' hq' =>
          obtain ⟨rfl, rfl⟩ := split_unique he hq he' hq'
          rfl
      | noProvider _ he' hq' h' =>
          obtain ⟨rfl, rfl⟩ := split_unique he hq he' hq'
          exact absurd h.knows h'
      | noModel _ h' => exact absurd h (h' _ _ he hq).2
  | noProvider hs he hq h =>
      cases hb with
      | bare h' => exact absurd h' (hs _)
      | qualified _ he' hq' h' =>
          obtain ⟨rfl, rfl⟩ := split_unique he hq he' hq'
          exact absurd h'.knows h
      | noProvider _ he' hq' =>
          obtain ⟨rfl, -⟩ := split_unique he hq he' hq'
          rfl
      | noModel _ h' => exact absurd (h' _ _ he hq).1 h
  | noModel hs h =>
      cases hb with
      | bare h' => exact absurd h' (hs _)
      | qualified _ he hq h' => exact absurd h' (h _ _ he hq).2
      | noProvider _ he hq h' => exact absurd (h _ _ he hq).1 h'
      | noModel => rfl

/-- What is true of a registry after registrations of which `ys` count. -/
structure Consistent (r : Registry σ) (ys : List (Registration σ)) : Prop where
  handles : r.handles = ys.map fun y => (y.name, { provider := y.provider })
  names : (Ordered.keys r.handles).Nodup
  listed : ∀ m p, (m, p) ∈ r.listModels ↔ Serves ys p m
  owned : ∀ m p, (m, p) ∈ r.listModels →
    p ∈ Ordered.keys r.handles ∧ ∀ q, (m, q) ∈ r.listModels → q = p
  resolve_iff : ∀ s out, r.resolve s = out ↔ Routes ys s out
  present : ∀ s route, r.resolve s = .ok route →
    ∃ h, Ordered.get? route.provider r.handles = some h

theorem consistent_after (xs : List (Registration σ)) : (after xs).Consistent (accepted xs) := by
  have h := holds_after xs
  have hkeys : Ordered.keys (after xs).handles = (accepted xs).map Registration.name := by
    rw [h.handles, Ordered.keys, List.map_map]
    rfl
  refine ⟨h.handles, hkeys ▸ Registration.nodup_names xs, fun m p => h.mem_listModels,
    fun m p hm => ⟨?_, fun q hq => ?_⟩, fun s out => ⟨?_, fun ho => ?_⟩, fun s route hr => ?_⟩
  · exact h.mem_keys_iff.2 (h.mem_listModels.1 hm).knows
  · exact Registration.serves_unique (h.mem_listModels.1 hq) (h.mem_listModels.1 hm)
  · rintro rfl
    exact h.routes s
  · exact routes_unique (h.routes s) ho
  · have hroute := h.routes s
    rw [hr] at hroute
    have hk : Knows (accepted xs) route.provider := by
      cases hroute with
      | bare hp => exact hp.knows
      | qualified _ _ _ hq => exact hq.knows
    rw [← Option.isSome_iff_exists, Option.isSome_iff_ne_none, ne_eq, Ordered.get?_eq_none_iff,
      not_not]
    exact h.mem_keys_iff.2 hk

/-- A registry built by registrations is consistent, and one more registration either adds its own
provider and models and nothing else, or is refused and changes nothing. -/
theorem after_consistent (xs : List (Registration σ)) :
    (after xs).Consistent (accepted xs) ∧
      ∀ x : Registration σ,
        (IsNew (accepted xs) x ∧
          (after xs).register x.provider x.models = (after (xs ++ [x]), .ok ()) ∧
          (after (xs ++ [x])).handles =
            (after xs).handles ++ [(x.name, { provider := x.provider })] ∧
          ∀ m p, (m, p) ∈ (after (xs ++ [x])).listModels ↔
            (m, p) ∈ (after xs).listModels ∨ m ∈ x.models ∧ p = x.name) ∨
        (¬ IsNew (accepted xs) x ∧
          (∃ fault, (after xs).register x.provider x.models = (after xs, .error fault)) ∧
          after (xs ++ [x]) = after xs) := by
  refine ⟨consistent_after xs, fun x => ?_⟩
  have h := holds_after xs
  rcases h.register_cases x with ⟨hx, r', hr, h'⟩ | ⟨hx, fault, hr⟩
  · have ha : after (xs ++ [x]) = r' := by rw [after_concat, offer, hr]
    refine .inl ⟨hx, by rw [ha, hr], ?_, fun m p => ?_⟩
    · rw [ha, h'.handles, h.handles, List.map_append]
      rfl
    · rw [ha, h'.mem_listModels, h.mem_listModels, serves_concat, and_comm (a := m ∈ x.models),
        eq_comm (a := p)]
  · refine .inr ⟨hx, ⟨fault, hr⟩, ?_⟩
    rw [after_concat, offer, hr]

end Registry

end ChatTurn
