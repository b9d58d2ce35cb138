import ChatTurn.Proofs.Outcomes
import ChatTurn.Proofs.Toml.Record

namespace ChatTurn

open Toml
open Ordered (get? put keys)

namespace RemoteConfig

/-- A string in the configuration of a remote provider. -/
inductive Field
  | apiKey
  | model (n : Nat)
  | mapped (m : String)

namespace Field

def name : Field → String
  | apiKey => "api_key"
  | model _ => "models"
  | mapped _ => "model_map"

def inner : Field → Path
  | apiKey => []
  | model n => [.index n]
  | mapped m => [.key m]

def get (c : RemoteConfig) : Field → Option String
  | apiKey => c.apiKey
  | model n => c.models[n]?
  | mapped m => get? m c.modelMap

def set (s : String) (c : RemoteConfig) : Field → RemoteConfig
  | apiKey => { c with apiKey := some s }
  | model n => { c with models := c.models.set n s }
  | mapped m => { c with modelMap := put m s c.modelMap }

end Field

def readFields? (es : Entries) : Option RemoteConfig := do
  let baseUrl ← requiredField (fun i => i.string?.bind Url.parse?) "base_url" es
  let apiKey ← optionalField Item.string? "api_key" es
  let models ← requiredField Item.strings? "models" es
  let modelMap ← fieldOr [] readMap? "model_map" es
  let timeout ← optionalField (Item.natural? UInt64.size) "timeout_seconds" es
  some ⟨baseUrl, apiKey, models, modelMap, timeout.map .ofNat⟩

theorem read?_eq (i : Item) : read? i = (i.record? fields true).bind readFields? := rfl

variable {s s' : String} {es fs : Entries} {r r' : RemoteConfig}

theorem readFields?_eq_some_iff : readFields? es = some r ↔
    requiredField (fun i => i.string?.bind Url.parse?) "base_url" es = some r.baseUrl ∧
      optionalField Item.string? "api_key" es = some r.apiKey ∧
      requiredField Item.strings? "models" es = some r.models ∧
      fieldOr [] readMap? "model_map" es = some r.modelMap ∧
      (optionalField (Item.natural? UInt64.size) "timeout_seconds" es).map (·.map UInt64.ofNat) =
        some r.timeout := by
  rw [readFields?]
  simp only [Option.bind_eq_bind, Option.bind_eq_some_iff, Option.map_eq_some_iff, Option.some.injEq]
  constructor
  · rintro ⟨u, hu, k, hk, ms, hms, mm, hmm, t, ht, rfl⟩
    exact ⟨hu, hk, hms, hmm, t, ht, rfl⟩
  · rintro ⟨hu, hk, hms, hmm, t, ht, hr⟩
    exact ⟨_, hu, _, hk, _, hms, _, hmm, t, ht, by rw [hr]⟩

theorem strings?_differ {n : Nat} {i j : Item} {ss ss' : List String}
    (h : Item.Differ s s' [.index n] i j) (hi : i.strings? = some ss) (hj : j.strings? = some ss') :
    ss[n]? = some s ∧ ss' = ss.set n s' := by
  generalize hp : [Step.index n] = whole at h
  cases h with
  | array before h after =>
      cases hp
      obtain ⟨rfl, rfl⟩ := h.eq_string
      obtain ⟨xs, y, y', zs, hxs, hy, hy', rfl, rfl⟩ := exists_of_mapM_differ hi hj
      cases hy
      cases hy'
      rw [← length_of_mapM hxs]
      exact ⟨by simp, by simp⟩
  | table o h => cases hi
  | here => cases hi
  | tables => cases hi

theorem readMap?_differ {m : String} {i j : Item} {d d' : Ordered String}
    (h : Item.Differ s s' [.key m] i j) (hi : readMap? i = some d) (hj : readMap? j = some d') :
    get? m d = some s ∧ d' = put m s' d := by
  generalize hp : [Step.key m] = whole at h
  cases h with
  | table o h =>
      subst hp
      generalize hp : [Step.key m] = whole at h
      obtain @⟨_, u, v, k, before, hk, h, after⟩ := h
      cases hp
      obtain ⟨rfl, rfl⟩ := h.eq_string
      obtain ⟨xs, y, y', zs, hxs, hy, hy', rfl, rfl⟩ := exists_of_mapM_differ hi hj
      cases hy
      cases hy'
      have hkeys : keys xs = keys before := map_of_mapM hxs fun e e' he => by
        obtain ⟨u, -, rfl⟩ := Option.map_eq_some_iff.1 he
        rfl
      rw [← hkeys] at hk
      exact ⟨Ordered.get?_append_cons hk, (Ordered.put_append_cons hk).symm⟩
  | here => cases hp
  | array => cases hi
  | tables => cases hi

theorem readFields?_same {name : String} (hsame : ∀ k, k ≠ name → get? k es = get? k fs)
    (hr : readFields? es = some r) (hr' : readFields? fs = some r') :
    (name ≠ "base_url" → r'.baseUrl = r.baseUrl) ∧ (name ≠ "api_key" → r'.apiKey = r.apiKey) ∧
      (name ≠ "models" → r'.models = r.models) ∧ (name ≠ "model_map" → r'.modelMap = r.modelMap) ∧
      (name ≠ "timeout_seconds" → r'.timeout = r.timeout) := by
  obtain ⟨hu, hk, hms, hmm, ht⟩ := readFields?_eq_some_iff.1 hr
  obtain ⟨hu', hk', hms', hmm', ht'⟩ := readFields?_eq_some_iff.1 hr'
  refine ⟨fun h => ?baseUrl, fun h => ?apiKey, fun h => ?models, fun h => ?modelMap, fun h => ?timeout⟩
  case baseUrl =>
    rw [requiredField_congr (hsame _ h.symm)] at hu
    exact Option.some.inj (hu'.symm.trans hu)
  case apiKey =>
    rw [optionalField_congr (hsame _ h.symm)] at hk
    exact Option.some.inj (hk'.symm.trans hk)
  case models =>
    rw [requiredField_congr (hsame _ h.symm)] at hms
    exact Option.some.inj (hms'.symm.trans hms)
  case modelMap =>
    rw [fieldOr_congr (hsame _ h.symm)] at hmm
    exact Option.some.inj (hmm'.symm.trans hmm)
  case timeout =>
    rw [optionalField_congr (hsame _ h.symm)] at ht
    exact Option.some.inj (ht'.symm.trans ht)

theorem Field.readFields?_differ {field : Field}
    (h : Entries.Differ s s' (.key field.name :: field.inner) es fs)
    (hr : readFields? es = some r) (hr' : readFields? fs = some r') :
    field.get r = some s ∧ r' = field.set s' r := by
  obtain ⟨hurl, hkey, hmodels, hmap, htimeout⟩ :=
    readFields?_same (fun k hk => h.get?_of_ne hk) hr hr'
  obtain ⟨-, hk, hms, hmm, -⟩ := readFields?_eq_some_iff.1 hr
  obtain ⟨-, hk', hms', hmm', -⟩ := readFields?_eq_some_iff.1 hr'
  obtain ⟨i, j, hi, hj, hij⟩ := h.get?_self
  obtain ⟨url', key', models', map', timeout'⟩ := r'
  cases hurl (by cases field <;> simp [Field.name])
  cases htimeout (by cases field <;> simp [Field.name])
  cases field with
  | apiKey =>
      cases hmodels (show "api_key" ≠ "models" by decide)
      cases hmap (show "api_key" ≠ "model_map" by decide)
      obtain ⟨rfl, rfl⟩ := hij.eq_string
      rw [optionalField_of_get? (show get? "api_key" es = some (.string s) from hi)] at hk
      rw [optionalField_of_get? (show get? "api_key" fs = some (.string s') from hj)] at hk'
      cases hk'
      exact ⟨(Option.some.inj hk).symm, rfl⟩
  | model n =>
      cases hkey (show "models" ≠ "api_key" by decide)
      cases hmap (show "models" ≠ "model_map" by decide)
      rw [requiredField_of_get? (show get? "models" es = some i from hi)] at hms
      rw [requiredField_of_get? (show get? "models" fs = some j from hj)] at hms'
      obtain ⟨hget, hset⟩ := strings?_differ hij hms hms'
      cases hset
      exact ⟨hget, rfl⟩
  | mapped m =>
      cases hkey (show "model_map" ≠ "api_key" by decide)
      cases hmodels (show "model_map" ≠ "models" by decide)
      rw [fieldOr_of_get? (show get? "model_map" es = some i from hi)] at hmm
      rw [fieldOr_of_get? (show get? "model_map" fs = some j from hj)] at hmm'
      obtain ⟨hget, hput⟩ := readMap?_differ hij hmm hmm'
      cases hput
      exact ⟨hget, rfl⟩

end RemoteConfig

variable {s s' : String} {path : Path} {i j i' j' : Item} {es fs : Entries} {field : RemoteConfig.Field}
  {provider : String}

namespace ProviderConfig

theorem splitType?_table {o : Origin} {type : String} (h : splitType? (.table o es) = some (type, i')) :
    requiredField Item.string? "type" es = some type ∧ i' = .table o (es.filter (·.1 ≠ "type")) := by
  obtain ⟨t, ht, h⟩ := Option.bind_eq_some_iff.1 h
  cases h
  exact ⟨ht, rfl⟩

theorem exists_of_splitType? {type : String} (hi : ∀ o es, i ≠ .table o es)
    (h : splitType? i = some (type, i')) :
    ∃ rest, i.items? = some (.string type :: rest) ∧ i' = .array rest := by
  unfold splitType? at h
  split at h
  · exact absurd rfl (hi _ _)
  · obtain ⟨is, his, h⟩ := Option.bind_eq_some_iff.1 h
    split at h
    · cases h
      exact ⟨_, his, rfl⟩
    · cases h

theorem splitType?_differ {name type type' : String} {step : Step} (hname : name ≠ "type")
    (hstep : step.Names ("type" :: RemoteConfig.fields) name) (h : Item.Differ s s' (step :: path) i j)
    (hi : splitType? i = some (type, i')) (hj : splitType? j = some (type', j')) :
    type' = type ∧ ∃ step', Step.Names RemoteConfig.fields name step' ∧
      Item.Differ s s' (step' :: path) i' j' := by
  cases hstep with
  | key =>
      generalize hp : Step.key name :: path = whole at h
      cases h with
      | here => cases hp
      | array => cases hp
      | tables => cases hp
      | table o h =>
          subst hp
          obtain ⟨ht, rfl⟩ := splitType?_table hi
          obtain ⟨ht', rfl⟩ := splitType?_table hj
          rw [requiredField_congr (h.get?_of_ne hname.symm)] at ht
          refine ⟨Option.some.inj (ht'.symm.trans ht), _, .key, .table o ?_⟩
          exact h.filter (p := fun k => decide (k ≠ "type")) (decide_eq_true hname)
  | @index n hn =>
      cases n with
      | zero => exact absurd (Option.some.inj hn).symm hname
      | succ n =>
          obtain ⟨rest, hrest, rfl⟩ := exists_of_splitType? (fun o es => (h.not_table o).1) hi
          obtain ⟨rest', hrest', rfl⟩ := exists_of_splitType? (fun o es => (h.not_table o).2) hj
          obtain ⟨before, u, v, after, hb, hu, hv, huv⟩ := h.items?
          cases before with
          | nil => cases hb
          | cons b before =>
              cases hrest.symm.trans hu
              cases hrest'.symm.trans hv
              refine ⟨rfl, .index n, .index hn, ?_⟩
              rw [← Nat.succ.inj hb]
              exact .array before huv after

theorem read?_differ {step : Step} {c : RemoteConfig} {q : ProviderConfig}
    (hstep : step.Names ("type" :: RemoteConfig.fields) field.name)
    (h : Item.Differ s s' (step :: field.inner) i j) (hi : read? i = some (.remote c))
    (hj : read? j = some q) : field.get c = some s ∧ q = .remote (field.set s' c) := by
  obtain ⟨⟨type, i'⟩, hti, hi⟩ := Option.bind_eq_some_iff.1 hi
  obtain ⟨⟨type', j'⟩, htj, hj⟩ := Option.bind_eq_some_iff.1 hj
  have hname : field.name ≠ "type" := by cases field <;> simp [RemoteConfig.Field.name]
  obtain ⟨rfl, step', hstep', hd⟩ := splitType?_differ hname hstep h hti htj
  dsimp only at hi hj
  split at hi
  · obtain ⟨x, -, hx⟩ := Option.map_eq_some_iff.1 hi
    cases hx
  · obtain ⟨x, hx, he⟩ := Option.map_eq_some_iff.1 hi
    cases he
    obtain ⟨y, hy, rfl⟩ := Option.map_eq_some_iff.1 hj
    rw [RemoteConfig.read?_eq] at hx hy
    obtain ⟨es, hes, hx⟩ := Option.bind_eq_some_iff.1 hx
    obtain ⟨fs, hfs, hy⟩ := Option.bind_eq_some_iff.1 hy
    have hrec := hd.record? (by decide) hstep' hes hfs
    obtain ⟨hget, rfl⟩ := RemoteConfig.Field.readFields?_differ hrec hx hy
    exact ⟨hget, rfl⟩
  · cases hi

end ProviderConfig

namespace Config

theorem readProviders?_differ {step : Step} {c : RemoteConfig} {ps qs : Ordered ProviderConfig}
    (hstep : step.Names ("type" :: RemoteConfig.fields) field.name)
    (h : Item.Differ s s' (.key provider :: step :: field.inner) i j)
    (hi : readProviders? i = some ps) (hj : readProviders? j = some qs)
    (hc : get? provider ps = some (.remote c)) :
    field.get c = some s ∧ qs = put provider (.remote (field.set s' c)) ps := by
  generalize hp : Step.key provider :: step :: field.inner = whole at h
  cases h with
  | here => cases hp
  | array => cases hp
  | tables => cases hp
  | table o h =>
      obtain @⟨_, u, v, k, before, hk, h, after⟩ := h
      cases hp
      obtain ⟨ds, hds, hi⟩ := Option.bind_eq_some_iff.1 hi
      obtain ⟨ds', hds', hj⟩ := Option.bind_eq_some_iff.1 hj
      cases hi
      cases hj
      obtain ⟨xs, y, y', zs, hxs, hy, hy', rfl, rfl⟩ := exists_of_mapM_differ hds hds'
      obtain ⟨p, hp, rfl⟩ := Option.map_eq_some_iff.1 hy
      obtain ⟨q, hq, rfl⟩ := Option.map_eq_some_iff.1 hy'
      have hkeys : keys xs = keys before := map_of_mapM hxs fun e e' he => by
        obtain ⟨u, -, rfl⟩ := Option.map_eq_some_iff.1 he
        rfl
      rw [← hkeys] at hk
      -- The order is by names, so that the provider comes to the same place in both.
      obtain ⟨bs, as, hb, hsorted⟩ := Ordered.exists_sorted hk zs
      change get? provider (Ordered.sorted _) = _ at hc
      rw [hsorted, Ordered.get?_append_cons hb] at hc
      cases hc
      obtain ⟨hget, rfl⟩ := ProviderConfig.read?_differ hstep h hp hq
      refine ⟨hget, ?_⟩
      change Ordered.sorted _ = put provider _ (Ordered.sorted _)
      rw [hsorted, hsorted, Ordered.put_append_cons hb]

theorem readInference?_differ {a b : Step} {c : RemoteConfig} {ps qs : Ordered ProviderConfig}
    (ha : a.Names ["providers"] "providers")
    (hb : b.Names ("type" :: RemoteConfig.fields) field.name)
    (h : Item.Differ s s' (a :: .key provider :: b :: field.inner) i j)
    (hi : readInference? i = some ps) (hj : readInference? j = some qs)
    (hc : get? provider ps = some (.remote c)) :
    field.get c = some s ∧ qs = put provider (.remote (field.set s' c)) ps := by
  obtain ⟨es, hes, hi⟩ := Option.bind_eq_some_iff.1 hi
  obtain ⟨fs, hfs, hj⟩ := Option.bind_eq_some_iff.1 hj
  obtain ⟨u, v, hu, hv, huv⟩ := (h.record? (by decide) ha hes hfs).get?_self
  rw [fieldOr_of_get? hu] at hi
  rw [fieldOr_of_get? hv] at hj
  exact readProviders?_differ hb huv hi hj hc

end Config

/-- The way to a string of a remote provider in a configuration. -/
inductive RemoteConfig.Field.IsPath (field : RemoteConfig.Field) (provider : String) : Path → Prop
  | intro {a b : Step} (ha : a.Names ["providers"] "providers")
      (hb : b.Names ("type" :: RemoteConfig.fields) field.name) :
      IsPath field provider (.key "inference" :: a :: .key provider :: b :: field.inner)

/-- Documents that differ in a string of a remote provider make configurations that differ in it, and
in nothing else. -/
theorem Config.read?_differ {c d : Config} {r : RemoteConfig} (hpath : field.IsPath provider path)
    (h : Entries.Differ s s' path es fs) (hc : read? es = some c) (hd : read? fs = some d)
    (hr : get? provider c.providers = some (.remote r)) : field.get r = some s ∧
      d = { c with providers := put provider (.remote (field.set s' r)) c.providers } := by
  obtain @⟨a, b, ha, hb⟩ := hpath
  obtain ⟨es', hes, hc⟩ := Option.bind_eq_some_iff.1 hc
  obtain ⟨fs', hfs, hd⟩ := Option.bind_eq_some_iff.1 hd
  rw [record?_table hes] at hc
  rw [record?_table hfs] at hd
  obtain ⟨ps, hps, hc⟩ := Option.bind_eq_some_iff.1 hc
  obtain ⟨qs, hqs, hd⟩ := Option.bind_eq_some_iff.1 hd
  obtain ⟨l, hl, hc⟩ := Option.bind_eq_some_iff.1 hc
  obtain ⟨l', hl', hd⟩ := Option.bind_eq_some_iff.1 hd
  cases hc
  cases hd
  obtain ⟨u, v, hu, hv, huv⟩ := h.get?_self
  rw [fieldOr_of_get? hu] at hps
  rw [fieldOr_of_get? hv] at hqs
  rw [optionalField_congr (h.get?_of_ne (show "logging" ≠ "inference" by decide))] at hl
  cases hl.symm.trans hl'
  obtain ⟨hget, rfl⟩ := readInference?_differ ha hb huv hps hqs hr
  exact ⟨hget, rfl⟩

end ChatTurn
