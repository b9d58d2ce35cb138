import ChatTurn.Proofs.Provider.Selection
import Mathlib.Data.List.Nodup
import Mathlib.Data.String.Basic

namespace ChatTurn

variable {σ : Type} {name m : String} {p : ProviderConfig} {ps : Ordered ProviderConfig}

def ProviderConfig.IsCountable : ProviderConfig → Prop
  | .scripted c => c.maxConcurrent.toNat ≤ Scripted.maxLimit
  | .remote _ => True

instance : DecidablePred ProviderConfig.IsCountable
  | .scripted c => inferInstanceAs (Decidable (c.maxConcurrent.toNat ≤ Scripted.maxLimit))
  | .remote _ => inferInstanceAs (Decidable True)

namespace Config

variable {c : Config} {owners owners' : Ordered String} {models : List String}

def IsCountable (c : Config) : Prop := ∀ e ∈ c.providers, e.2.IsCountable

instance (c : Config) : Decidable c.IsCountable :=
  inferInstanceAs (Decidable (∀ e ∈ c.providers, e.2.IsCountable))

def served (ps : Ordered ProviderConfig) : List (String × String) :=
  ps.flatMap fun e => e.2.models.map fun m => (m, e.1)

/-- Neither the name nor a model of the second provider is one of the first. -/
def Apart (e f : String × ProviderConfig) : Prop := e.1 ≠ f.1 ∧ ∀ m ∈ f.2.models, m ∉ e.2.models

theorem mem_served : (m, name) ∈ served ps ↔ ∃ e ∈ ps, e.1 = name ∧ m ∈ e.2.models := by
  simp only [served, List.mem_flatMap, List.mem_map, Prod.mk.injEq]
  constructor
  · rintro ⟨e, he, m', hm, rfl, rfl⟩
    exact ⟨e, he, rfl, hm⟩
  · rintro ⟨e, he, rfl, hm⟩
    exact ⟨e, he, m, hm, rfl, rfl⟩

theorem map_fst_served : (served ps).map Prod.fst = ps.flatMap fun e => e.2.models := by
  rw [served, List.map_flatMap]
  congr
  funext e
  rw [List.map_map]
  exact List.map_id _

theorem own_eq_ok (h : own name owners models = .ok owners') :
    models.Nodup ∧ (∀ m ∈ models, Ordered.get? m owners = none) ∧
      ∀ m, Ordered.get? m owners' = none ↔ Ordered.get? m owners = none ∧ m ∉ models := by
  induction models generalizing owners with
  | nil =>
      cases h
      exact ⟨List.nodup_nil, List.forall_mem_nil _, fun m => by simp⟩
  | cons n ms ih =>
      rw [own] at h
      split at h
      · cases h
      · next hn =>
          obtain ⟨hms, hfree, ho⟩ := ih h
          have hput : ∀ m, Ordered.get? m (Ordered.put n name owners) = none ↔
              Ordered.get? m owners = none ∧ m ≠ n := by
            intro m
            rw [Ordered.get?_put]
            by_cases hm : n = m
            · simp [hm]
            · simp [hm, Ne.symm hm]
          have hnew : n ∉ ms := fun hm => ((hput n).1 (hfree n hm)).2 rfl
          refine ⟨List.nodup_cons.2 ⟨hnew, hms⟩, ?_, fun m => ?_⟩
          · exact List.forall_mem_cons.2 ⟨hn, fun m hm => ((hput m).1 (hfree m hm)).1⟩
          · rw [ho, hput, List.mem_cons, not_or, and_assoc]

theorem checkProviders_eq_ok (h : checkProviders owners ps = .ok ()) :
    (∀ e ∈ ps, checkProvider e.1 e.2 = .ok ()) ∧
      (∀ e ∈ ps, ∀ m ∈ e.2.models, Ordered.get? m owners = none) ∧
      ((served ps).map Prod.fst).Nodup := by
  rw [map_fst_served]
  induction ps generalizing owners with
  | nil => exact ⟨List.forall_mem_nil _, List.forall_mem_nil _, List.nodup_nil⟩
  | cons e ps ih =>
      obtain ⟨name, p⟩ := e
      rw [checkProviders] at h
      split at h
      · cases h
      · obtain ⟨owners', hown, h⟩ := bind_eq_ok_iff.1 h
        obtain ⟨⟨⟩, hp, h⟩ := bind_eq_ok_iff.1 h
        obtain ⟨hmodels, hfree, ho⟩ := own_eq_ok hown
        obtain ⟨hps, hrest, hdistinct⟩ := ih h
        refine ⟨List.forall_mem_cons.2 ⟨hp, hps⟩, List.forall_mem_cons.2 ⟨hfree, ?_⟩, ?_⟩
        · exact fun e he m hm => ((ho m).1 (hrest e he m hm)).1
        · rw [List.flatMap_cons, List.nodup_append]
          refine ⟨hmodels, hdistinct, fun m hm n hn => ?_⟩
          obtain ⟨e, he, hn⟩ := List.mem_flatMap.1 hn
          rintro rfl
          exact ((ho m).1 (hrest e he m hn)).2 hm

theorem validate_eq_ok (h : c.validate = .ok ()) :
    (∀ e ∈ c.providers, checkProvider e.1 e.2 = .ok ()) ∧
      ((served c.providers).map Prod.fst).Nodup := by
  rw [validate] at h
  split at h
  · cases h
  · obtain ⟨hps, -, hdistinct⟩ := checkProviders_eq_ok h
    exact ⟨hps, hdistinct⟩

theorem pairwise_apart (hk : (Ordered.keys ps).Nodup) (hm : ((served ps).map Prod.fst).Nodup) :
    ps.Pairwise Apart := by
  rw [map_fst_served] at hm
  induction ps with
  | nil => exact .nil
  | cons e ps ih =>
      rw [Ordered.keys, List.map_cons, List.nodup_cons] at hk
      rw [List.flatMap_cons, List.nodup_append] at hm
      refine .cons (fun f hf => ⟨fun he => ?_, fun m hmf hme => ?_⟩) (ih hk.2 hm.2.1)
      · exact hk.1 (he ▸ List.mem_map_of_mem hf)
      · exact hm.2.2 m hme m (List.mem_flatMap.2 ⟨f, hf, hmf⟩) rfl

theorem compile_of_checkScripts {scripts : List Script} (h : checkScripts name scripts = .ok ()) :
    ∃ rules, Scripted.compile name scripts = .ok rules := by
  induction scripts with
  | nil => exact ⟨[], rfl⟩
  | cons s ss ih =>
      rw [checkScripts] at h
      rw [Scripted.compile]
      cases hs : Pattern.parse s.pattern with
      | error fault =>
          rw [hs] at h
          cases h
      | ok pattern =>
          rw [hs] at h
          obtain ⟨rules, hr⟩ := ih h
          exact ⟨⟨pattern, s.output⟩ :: rules, by simp only [hr, Except.map]⟩

end Config

theorem Provider.ofConfig_of_checked (send : Remote.Transport σ)
    (h : Config.checkProvider name p = .ok ()) :
    (p.IsCountable ∧ ∃ q, Provider.ofConfig send name p = .ok q ∧ q.name = name) ∨
      ¬ p.IsCountable ∧ Provider.ofConfig send name p = .error (.tooMuchConcurrency name) := by
  cases p with
  | remote c => exact .inl ⟨trivial, _, rfl, rfl⟩
  | scripted c =>
      obtain ⟨⟨⟩, hs, h⟩ := bind_eq_ok_iff.1 h
      obtain ⟨rules, hr⟩ := Config.compile_of_checkScripts hs
      have hzero : c.maxConcurrent.toNat ≠ 0 := by
        intro hz
        rw [if_pos (UInt64.toNat_inj.1 hz)] at h
        cases h
      -- Only the lower end of the range was checked.
      by_cases hc : c.maxConcurrent.toNat ≤ Scripted.maxLimit
      · refine .inl ⟨hc, ?_⟩
        simp only [Provider.ofConfig, Scripted.ofConfig, hr, if_neg hzero, if_neg (Nat.not_lt.2 hc)]
        exact ⟨_, rfl, rfl⟩
      · refine .inr ⟨hc, ?_⟩
        simp only [Provider.ofConfig, Scripted.ofConfig, hr, if_neg hzero, if_pos (Nat.not_le.1 hc)]
        rfl

namespace Registry

open Registration (IsNew Serves)

variable {send : Remote.Transport σ} {c : Config} {r : Registry σ} {ys : List (Registration σ)}

def Registers (send : Remote.Transport σ) (e : String × ProviderConfig) (x : Registration σ) :
    Prop :=
  Provider.ofConfig send e.1 e.2 = .ok x.provider ∧ x.name = e.1 ∧ x.models = e.2.models

/-- Providers that were checked and share nothing are added one by one, up to the first for which
there are too few permits. -/
theorem registerAll_checked (send : Remote.Transport σ) (h : r.Holds ys)
    (hps : ∀ e ∈ ps, Config.checkProvider e.1 e.2 = .ok ()) (hapart : ps.Pairwise Config.Apart)
    (hnew : ∀ e ∈ ps, ∀ y ∈ ys, y.name ≠ e.1 ∧ ∀ m ∈ e.2.models, m ∉ y.models) :
    ((∀ e ∈ ps, e.2.IsCountable) ∧ ∃ r' xs, registerAll send r ps = .ok r' ∧ r'.Holds (ys ++ xs) ∧
      List.Forall₂ (Registers send) ps xs) ∨
    ∃ e ∈ ps, ¬ e.2.IsCountable ∧ registerAll send r ps = .error (.tooMuchConcurrency e.1) := by
  induction ps generalizing r ys with
  | nil => exact .inl ⟨List.forall_mem_nil _, r, [], rfl, by rwa [List.append_nil], .nil⟩
  | cons e ps ih =>
      rw [List.forall_mem_cons] at hps hnew
      rw [List.pairwise_cons] at hapart
      obtain ⟨name, p⟩ := e
      rcases Provider.ofConfig_of_checked send hps.1 with ⟨hc, q, hq, hname⟩ | ⟨hc, hq⟩
      · let x : Registration σ := ⟨q, p.models⟩
        have hx : x.name = name := hname
        have hn : IsNew ys x := fun y hy => hx ▸ hnew.1 y hy
        rcases h.register_cases x with ⟨-, r', hr, h'⟩ | ⟨hnot, -⟩
        -- The rest shares nothing with `e` either, so `e` now counts as one of the old ones.
        · have hstep : registerAll send r ((name, p) :: ps) = registerAll send r' ps := by
            simp only [registerAll, hq, bind, Except.bind]
            rw [show r.register q p.models = (r', .ok ()) from hr]
          have hnew' : ∀ f ∈ ps, ∀ y ∈ ys ++ [x],
              y.name ≠ f.1 ∧ ∀ m ∈ f.2.models, m ∉ y.models := by
            intro f hf
            refine List.forall_mem_append.2 ⟨hnew.2 f hf, List.forall_mem_singleton.2 ?_⟩
            rw [hx]
            exact hapart.1 f hf
          rcases ih h' hps.2 hapart.2 hnew' with ⟨hcs, s, xs, hs, hholds, hxs⟩ | ⟨f, hf, hcf, herr⟩
          · refine .inl ⟨List.forall_mem_cons.2 ⟨hc, hcs⟩, s, x :: xs, hstep ▸ hs, ?_, .cons ?_ hxs⟩
            · rwa [List.append_cons]
            · exact ⟨hq, hx, rfl⟩
          · exact .inr ⟨f, List.mem_cons_of_mem _ hf, hcf, hstep ▸ herr⟩
        · exact absurd hn hnot
      · refine .inr ⟨_, List.mem_cons_self, hc, ?_⟩
        simp only [registerAll, hq, bind, Except.bind]

/-- What is true of a registry that serves all that a configuration asks for. -/
structure Reflects (send : Remote.Transport σ) (r : Registry σ) (c : Config) : Prop where
  handles : List.Forall₂ (fun e h => h.1 = e.1 ∧ Provider.ofConfig send e.1 e.2 = .ok h.2.provider ∧
    h.2.state = .uninitialized) c.providers r.handles
  listed : r.listModels.Perm (Config.served c.providers)
  ascending : r.listModels.Pairwise fun a b => a.1 < b.1

theorem Holds.pairwise_listModels (h : r.Holds ys) :
    r.listModels.Pairwise fun a b => a.1 < b.1 := by
  have htrans : ∀ a b c : String × String,
      decide (a.1 ≤ b.1) = true → decide (b.1 ≤ c.1) = true → decide (a.1 ≤ c.1) = true := by
    intro a b c hab hbc
    exact decide_eq_true (le_trans (of_decide_eq_true hab) (of_decide_eq_true hbc))
  have htotal : ∀ a b : String × String, (decide (a.1 ≤ b.1) || decide (b.1 ≤ a.1)) = true := by
    intro a b
    rcases le_total a.1 b.1 with hle | hle
    · rw [decide_eq_true hle, Bool.true_or]
    · rw [decide_eq_true hle, Bool.or_true]
  have hsorted := List.pairwise_mergeSort htrans htotal r.owners
  have hne : r.listModels.Pairwise fun a b => a.1 ≠ b.1 := by
    rw [← List.pairwise_map]
    exact ((List.mergeSort_perm r.owners _).map Prod.fst).nodup_iff.2 h.nodup
  exact hsorted.imp₂ (fun a b hle hlt => lt_of_le_of_ne (of_decide_eq_true hle) hlt) hne

theorem serves_iff_of_registers {xs : List (Registration σ)}
    (h : List.Forall₂ (Registers send) ps xs) :
    Serves xs name m ↔ (m, name) ∈ Config.served ps := by
  rw [Config.mem_served, Serves]
  induction h with
  | nil => simp
  | @cons e x ps xs he _ ih =>
      obtain ⟨-, hn, hm⟩ := he
      rw [List.exists_mem_cons_iff, List.exists_mem_cons_iff, ih, hn, hm]

theorem Holds.reflects {xs : List (Registration σ)} (h : r.Holds xs)
    (hxs : List.Forall₂ (Registers send) c.providers xs)
    (hm : ((Config.served c.providers).map Prod.fst).Nodup) : r.Reflects send c := by
  have hascending := h.pairwise_listModels
  refine ⟨?_, ?_, hascending⟩
  · rw [h.handles, List.forall₂_map_right_iff]
    exact hxs.imp fun e x hx => ⟨hx.2.1, hx.1, rfl⟩
  · have hnodup : r.listModels.Nodup := hascending.imp fun hlt he => (he ▸ hlt).false
    rw [List.perm_ext_iff_of_nodup hnodup (List.Nodup.of_map _ hm)]
    rintro ⟨m, p⟩
    rw [h.mem_listModels, serves_iff_of_registers hxs]

/-- A valid configuration is built whole just where there are permits for all that it allows to run
at once. -/
theorem ofConfig_validated (send : Remote.Transport σ) (hk : (Ordered.keys c.providers).Nodup)
    (hv : c.validate = .ok ()) :
    (c.IsCountable → ∃ r, ofConfig send c = .ok r ∧ r.Reflects send c) ∧
      (¬ c.IsCountable → ∃ p, ofConfig send c = .error (.tooMuchConcurrency p)) := by
  obtain ⟨hps, hm⟩ := Config.validate_eq_ok hv
  rcases registerAll_checked send holds_nil hps (Config.pairwise_apart hk hm)
      (fun _ _ => List.forall_mem_nil _) with ⟨hc, r, xs, hr, hholds, hxs⟩ | ⟨e, he, hc, herr⟩
  · exact ⟨fun _ => ⟨r, hr, hholds.reflects hxs hm⟩, fun hn => absurd hc hn⟩
  · exact ⟨fun hall => absurd (hall e he) hc, fun _ => ⟨e.1, herr⟩⟩

def brimful : Config :=
  { providers := [("a", .scripted
        { models := ["m", "k"], scripts := [⟨"hi|x+", "o"⟩],
          maxConcurrent := 2305843009213693951 }),
      ("b", .remote
        { baseUrl := { scheme := "https" }, models := ["l"], modelMap := [("l", "large")] })] }

theorem ofConfig_validated_brimful :
    ∃ r, ofConfig unreachable brimful = .ok r ∧ r.Reflects unreachable brimful := by
  have hv : brimful.validate = .ok () := by decide +kernel
  exact (ofConfig_validated unreachable (by decide) hv).1 (by decide)

/-- One permit more than there can be. -/
def overfull : Config :=
  { providers := [("p", .scripted { models := ["m"], maxConcurrent := 2305843009213693952 })] }

theorem not_ofConfig_overfull : overfull.validate = .ok () ∧
    ofConfig unreachable overfull = .error (.tooMuchConcurrency "p") := by
  exact ⟨by decide +kernel, rfl⟩

end Registry

end ChatTurn
