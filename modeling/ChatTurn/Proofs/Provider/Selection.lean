import ChatTurn.Proofs.Provider.Registration
import ChatTurn.Proofs.Tool.Reading
import ChatTurn.Provider.Configured

namespace ChatTurn

namespace Registry

open Registration (Serves)

variable {σ : Type} {send : Remote.Transport σ} {c : Config} {r r' : Registry σ}
  {ys : List (Registration σ)} {m p : String}

/-- A model can be asked for by its own name, and by its provider's name, a slash and its own. -/
def Selects (r : Registry σ) (p m : String) : Prop :=
  r.resolve m = .ok ⟨p, m⟩ ∧ r.resolve (p ++ "/" ++ m) = .ok ⟨p, m⟩

theorem Holds.registerAll {configs : Ordered ProviderConfig} (h : r.Holds ys)
    (hr : registerAll send r configs = .ok r') : ∃ zs, r'.Holds zs := by
  induction configs generalizing r ys with
  | nil =>
      cases hr
      exact ⟨ys, h⟩
  | cons entry configs ih =>
      obtain ⟨name, c⟩ := entry
      obtain ⟨provider, -, hr⟩ := bind_eq_ok_iff.1 hr
      rcases h.register_cases ⟨provider, c.models⟩ with ⟨-, s, hs, h'⟩ | ⟨-, fault, hs⟩
      · rw [hs] at hr
        exact ih h' hr
      · rw [hs] at hr
        cases hr

theorem holds_of_ofConfig (hr : ofConfig send c = .ok r) : ∃ ys, r.Holds ys := holds_nil.registerAll hr

namespace Holds

theorem resolve_listed (h : r.Holds ys) (hm : (m, p) ∈ r.listModels) :
    r.resolve m = .ok ⟨p, m⟩ := by
  rw [resolve, (h.owner_iff m p).2 (h.mem_listModels.1 hm)]

theorem resolve_qualified_iff (h : r.Holds ys) (hm : (m, p) ∈ r.listModels) :
    r.resolve (p ++ "/" ++ m) = .ok ⟨p, m⟩ ↔
      '/' ∉ p.toList ∧ ∀ q, (p ++ "/" ++ m, q) ∉ r.listModels := by
  simp only [h.mem_listModels]
  rw [h.mem_listModels] at hm
  have hne : p ++ "/" ++ m ≠ m := by
    intro he
    have hl := congrArg String.length he
    rw [String.length_append, String.length_append] at hl
    have hs : "/".length = 1 := rfl
    omega
  generalize hs : p ++ "/" ++ m = s at hne ⊢
  have hroute := h.routes s
  constructor
  · intro hr
    rw [hr] at hroute
    cases hroute with
    | bare => exact absurd rfl hne
    | qualified hnone _ hp => exact ⟨hp, hnone⟩
  · rintro ⟨hp, hnone⟩
    generalize r.resolve s = out at hroute
    cases hroute with
    | bare h' => exact absurd h' (hnone _)
    | qualified _ he hq =>
        obtain ⟨rfl, rfl⟩ := split_unique hs.symm hp he hq
        rfl
    | noProvider _ he hq hk =>
        obtain ⟨rfl, -⟩ := split_unique hs.symm hp he hq
        exact absurd hm.knows hk
    | noModel _ h' => exact absurd hm (h' p m hs.symm hp).2

end Holds

/-- A listed model is always found by its own name. By its provider's name and its own it is found
exactly where the first has no slash and the two together name no listed model. -/
theorem selects_iff (hr : ofConfig send c = .ok r) (hm : (m, p) ∈ r.listModels) :
    r.resolve m = .ok ⟨p, m⟩ ∧
      (r.Selects p m ↔ '/' ∉ p.toList ∧ ∀ q, (p ++ "/" ++ m, q) ∉ r.listModels) := by
  obtain ⟨ys, h⟩ := holds_of_ofConfig hr
  have hbare := h.resolve_listed hm
  rw [← h.resolve_qualified_iff hm]
  exact ⟨hbare, fun hs => hs.2, fun hq => ⟨hbare, hq⟩⟩

/-- One model has the name of a provider, a slash, and the name of a model of that provider; and one
provider has a slash in its name. -/
def crossed : Config :=
  { providers := [("a", .scripted { models := ["b/c"], fallback := some "" }),
      ("b", .scripted { models := ["c"], fallback := some "" }),
      ("x/y", .scripted { models := ["m"], fallback := some "" })] }

def unreachable : Remote.Transport Unit := fun _ => pure none

theorem mem_listModels_crossed : ∃ r, ofConfig unreachable crossed = .ok r ∧
    ∀ e, e ∈ r.listModels ↔ e ∈ [("b/c", "a"), ("c", "b"), ("m", "x/y")] := by
  refine ⟨_, rfl, fun e => ?_⟩
  rw [listModels, List.mem_mergeSort]
  rfl

theorem selects_iff_crossed : ∃ r, ofConfig unreachable crossed = .ok r ∧
    ("b/c", "a") ∈ r.listModels ∧ r.Selects "a" "b/c" := by
  obtain ⟨r, hr, hlist⟩ := mem_listModels_crossed
  have hm : ("b/c", "a") ∈ r.listModels := (hlist _).2 (by decide)
  refine ⟨r, hr, hm, (selects_iff hr hm).2.2 ⟨by decide, fun q hq => ?_⟩⟩
  have hname := List.mem_map_of_mem (f := Prod.fst) ((hlist _).1 hq)
  exact absurd hname (by decide : "a" ++ "/" ++ "b/c" ∉ ["b/c", "c", "m"])

/-- In a valid configuration there are models that their provider's name and their own do not
select: one is looked up as another provider's, and one is sought at no provider there is. -/
theorem not_selects_crossed : crossed.validate = .ok () ∧
    ∃ r, ofConfig unreachable crossed = .ok r ∧
      (("m", "x/y") ∈ r.listModels ∧ ¬ r.Selects "x/y" "m") ∧
      (("c", "b") ∈ r.listModels ∧ ¬ r.Selects "b" "c") := by
  obtain ⟨r, hr, hlist⟩ := mem_listModels_crossed
  obtain ⟨ys, h⟩ := holds_of_ofConfig hr
  have hslash : ("m", "x/y") ∈ r.listModels := (hlist _).2 (by decide)
  have hbare : ("c", "b") ∈ r.listModels := (hlist _).2 (by decide)
  refine ⟨rfl, r, hr, ⟨hslash, fun hs => ?_⟩, ⟨hbare, fun hs => ?_⟩⟩
  · exact ((h.resolve_qualified_iff hslash).1 hs.2).1 (by decide)
  · exact ((h.resolve_qualified_iff hbare).1 hs.2).2 "a" ((hlist _).2 (by decide))

end Registry

end ChatTurn
