import ChatTurn.Proofs.Ordered
import ChatTurn.Toml.Value

namespace ChatTurn.Toml

/-- A way down from an item: to what a key names in a table, or to an item of an array. -/
inductive Step
  | key (k : String)
  | index (n : Nat)
  deriving DecidableEq

abbrev Path := List Step

mutual

/-- Two items, or two tables, that are the same, but where the path leads there is one string in the
first and another in the second. -/
inductive Item.Differ (s s' : String) : Path → Item → Item → Prop
  | here : Item.Differ s s' [] (.string s) (.string s')
  | array {path : Path} {i j : Item} (before : List Item) (h : Item.Differ s s' path i j)
      (after : List Item) :
      Item.Differ s s' (.index before.length :: path) (.array (before ++ i :: after))
        (.array (before ++ j :: after))
  | table {path : Path} {es fs : Entries} (origin : Origin) (h : Entries.Differ s s' path es fs) :
      Item.Differ s s' path (.table origin es) (.table origin fs)
  | tables {path : Path} {es fs : Entries} (before : List Entries) (h : Entries.Differ s s' path es fs)
      (after : List Entries) :
      Item.Differ s s' (.index before.length :: path) (.tables (before ++ es :: after))
        (.tables (before ++ fs :: after))

inductive Entries.Differ (s s' : String) : Path → Entries → Entries → Prop
  | entry {path : Path} {i j : Item} {k : String} (before : Entries) (hk : k ∉ Ordered.keys before)
      (h : Item.Differ s s' path i j) (after : Entries) :
      Entries.Differ s s' (.key k :: path) (before ++ (k, i) :: after) (before ++ (k, j) :: after)

end

/-- Where a path of keys leads. Of an array of tables the last is meant. -/
def Entries.place : List String → Entries → Path
  | [], _ => []
  | k :: ks, es =>
    match Ordered.get? k es with
    | some (.table _ inner) => .key k :: place ks inner
    | some (.tables ts) => .key k :: .index (ts.length - 1) :: place ks (ts.getLast?.getD [])
    | _ => .key k :: place ks []

open Ordered (get? put keys)

variable {s s' k : String} {path rest : Path} {es fs r r' : Entries} {i j : Item}

namespace Entries.Differ

theorem get?_cases (h : Entries.Differ s s' path es fs) (k : String) :
    (∃ rest i j, path = .key k :: rest ∧ get? k es = some i ∧ get? k fs = some j ∧
      Item.Differ s s' rest i j) ∨ path.head? ≠ some (.key k) ∧ get? k es = get? k fs := by
  obtain @⟨rest, i, j, k', before, hk, hij, after⟩ := h
  by_cases hkk : k' = k
  · subst hkk
    exact .inl ⟨rest, i, j, rfl, Ordered.get?_append_cons hk, Ordered.get?_append_cons hk, hij⟩
  · refine .inr ⟨fun he => hkk ?_, ?_⟩
    · cases he
      rfl
    · rw [Ordered.get?_append_cons_of_ne hkk, Ordered.get?_append_cons_of_ne hkk]

theorem put_same (h : Entries.Differ s s' path es fs) (hk : path.head? ≠ some (.key k)) (i : Item) :
    Entries.Differ s s' path (put k i es) (put k i fs) := by
  obtain @⟨rest, i', j', k', before, hk', hij, after⟩ := h
  have hne : k ≠ k' := fun he => hk (by rw [he]; rfl)
  obtain ⟨before', after', hb, hput⟩ := Ordered.exists_put_of_ne hne hk' i after
  rw [hput, hput]
  exact .entry before' hb hij after'

theorem append (h : Entries.Differ s s' path es fs) (more : Entries) :
    Entries.Differ s s' path (es ++ more) (fs ++ more) := by
  obtain @⟨rest, i', j', k', before, hk', hij, after⟩ := h
  rw [List.append_assoc, List.append_assoc, List.cons_append, List.cons_append]
  exact .entry before hk' hij _

theorem put (h : Entries.Differ s s' (.key k :: rest) es fs) (hij : Item.Differ s s' path i j) :
    Entries.Differ s s' (.key k :: path) (put k i es) (put k j fs) := by
  obtain @⟨rest, i', j', k', before, hk', -, after⟩ := h
  rw [Ordered.put_append_cons hk', Ordered.put_append_cons hk']
  exact .entry before hk' hij after

end Entries.Differ

theorem Item.Differ.put (h : Item.Differ s s' path i j) (k : String) (es : Entries) :
    Entries.Differ s s' (.key k :: path) (put k i es) (put k j es) := by
  obtain ⟨before, after, hb, hput⟩ := Ordered.exists_put k es
  rw [hput, hput]
  exact .entry before hb h after

theorem Item.Differ.concat (h : Item.Differ s s' path i j) (hk : get? k es = none) :
    Entries.Differ s s' (.key k :: path) (es ++ [(k, i)]) (es ++ [(k, j)]) :=
  .entry es (Ordered.get?_eq_none_iff.1 hk) h []

variable {dotted : Bool} {ks : List String} {add add' : Origin → Entries → Option Entries}
  {origin : Origin}

def reach (dotted : Bool) (ks : List String) (add : Origin → Entries → Option Entries) :
    Option Item → Option Item
  | none =>
    let origin := if dotted then Origin.dotted else .implied
    (descend dotted ks add origin []).map (.table origin ·)
  | some (.table origin inner) =>
    if origin = .inline || (dotted && origin = .header) then none
    else (descend dotted ks add origin inner).map (.table origin ·)
  | some (.tables ts) =>
    ts.getLast?.bind fun last => (descend dotted ks add .header last).map fun last =>
      .tables (ts.dropLast ++ [last])
  | some _ => none

theorem descend_cons : descend dotted (k :: ks) add origin es =
    (reach dotted ks add (get? k es)).map fun i => put k i es := by
  rw [descend]
  generalize get? k es = found
  split
  · rw [reach]
    dsimp only
    cases descend dotted ks add (if dotted = true then Origin.dotted else .implied) [] <;> rfl
  · next origin inner =>
      rw [reach]
      split
      · rfl
      · cases descend dotted ks add origin inner <;> rfl
  · next ts =>
      rw [reach]
      cases ts.getLast? with
      | none => rfl
      | some last =>
          dsimp only [Option.bind_some]
          cases descend dotted ks add .header last <;> rfl
  · rw [reach] <;> first | rfl | assumption

theorem Entries.Differ.replaceLast {before after : List Entries} {u v u' v' : Entries}
    (h : Entries.Differ s s' path es fs) (hu : (before ++ es :: after).getLast? = some u)
    (hv : (before ++ fs :: after).getLast? = some v)
    (hd : ∀ {path}, Entries.Differ s s' path u v → Entries.Differ s s' path u' v')
    (he : u = v → u' = v') :
    Item.Differ s s' (.index before.length :: path)
      (.tables ((before ++ es :: after).dropLast ++ [u']))
      (.tables ((before ++ fs :: after).dropLast ++ [v'])) := by
  rcases List.eq_nil_or_concat after with rfl | ⟨after, last, rfl⟩
  · rw [List.getLast?_concat] at hu hv
    cases hu
    cases hv
    rw [List.dropLast_concat, List.dropLast_concat]
    exact .tables before (hd h) []
  · have hlast : ∀ ts : Entries, before ++ ts :: after.concat last =
        (before ++ ts :: after) ++ [last] := by simp
    rw [hlast, List.getLast?_concat] at hu hv
    obtain rfl := he (Option.some.inj (hu.symm.trans hv))
    rw [hlast, hlast, List.dropLast_concat, List.dropLast_concat, List.append_assoc,
      List.append_assoc, List.cons_append, List.cons_append]
    exact .tables before h _

/-- What is added to tables that differ at one place does not change that place, if it is so at the
end of the way. -/
theorem Entries.Differ.descend
    (hadd : ∀ {path o es fs r r'}, Entries.Differ s s' path es fs → add o es = some r →
      add o fs = some r' → Entries.Differ s s' path r r')
    (h : Entries.Differ s s' path es fs) (hr : descend dotted ks add origin es = some r)
    (hr' : descend dotted ks add origin fs = some r') : Entries.Differ s s' path r r' := by
  induction ks generalizing path es fs origin r r' with
  | nil => exact hadd h hr hr'
  | cons k ks ih =>
      rw [descend_cons] at hr hr'
      obtain ⟨a, ha, rfl⟩ := Option.map_eq_some_iff.1 hr
      obtain ⟨b, hb, rfl⟩ := Option.map_eq_some_iff.1 hr'
      rcases h.get?_cases k with ⟨rest, i, j, rfl, hi, hj, hij⟩ | ⟨hk, he⟩
      · rw [hi] at ha
        rw [hj] at hb
        refine h.put ?_
        cases hij with
        | here => cases ha
        | array => cases ha
        | table o hes =>
            rw [reach] at ha hb
            split at ha
            · cases ha
            · rw [if_neg ‹_›] at hb
              obtain ⟨u, hu, rfl⟩ := Option.map_eq_some_iff.1 ha
              obtain ⟨v, hv, rfl⟩ := Option.map_eq_some_iff.1 hb
              exact .table o (ih hes hu hv)
        | tables before hes after =>
            obtain ⟨u, hu, ha⟩ := Option.bind_eq_some_iff.1 ha
            obtain ⟨v, hv, hb⟩ := Option.bind_eq_some_iff.1 hb
            obtain ⟨u', hu', rfl⟩ := Option.map_eq_some_iff.1 ha
            obtain ⟨v', hv', rfl⟩ := Option.map_eq_some_iff.1 hb
            refine hes.replaceLast hu hv (fun hd => ih hd hu' hv') (fun he => ?_)
            subst he
            exact Option.some.inj (hu'.symm.trans hv')
      · rw [he] at ha
        cases ha.symm.trans hb
        exact h.put_same hk a

theorem Entries.differ_descend {tail : List String}
    (hadd : ∀ {o es r r'}, add o es = some r → add' o es = some r' →
      Entries.Differ s s' (Entries.place tail es ++ path) r r')
    (hr : descend dotted ks add origin es = some r)
    (hr' : descend dotted ks add' origin es = some r') :
    Entries.Differ s s' (Entries.place (ks ++ tail) es ++ path) r r' := by
  induction ks generalizing es origin r r' with
  | nil => exact hadd hr hr'
  | cons k₁ ks ih =>
      rw [descend_cons] at hr hr'
      obtain ⟨a, ha, rfl⟩ := Option.map_eq_some_iff.1 hr
      obtain ⟨b, hb, rfl⟩ := Option.map_eq_some_iff.1 hr'
      rw [List.cons_append, Entries.place]
      generalize get? k₁ es = found at ha hb ⊢
      unfold reach at ha
      split at ha
      · obtain ⟨u, hu, rfl⟩ := Option.map_eq_some_iff.1 ha
        obtain ⟨v, hv, rfl⟩ := Option.map_eq_some_iff.1 hb
        exact (Item.Differ.table _ (ih hu hv)).put k₁ es
      · next o inner =>
          rw [reach] at hb
          split at ha
          · cases ha
          · rw [if_neg ‹_›] at hb
            obtain ⟨u, hu, rfl⟩ := Option.map_eq_some_iff.1 ha
            obtain ⟨v, hv, rfl⟩ := Option.map_eq_some_iff.1 hb
            exact (Item.Differ.table o (ih hu hv)).put k₁ es
      · next ts =>
          obtain ⟨last, hlast, ha⟩ := Option.bind_eq_some_iff.1 ha
          rw [reach, hlast, Option.bind_some] at hb
          obtain ⟨u, hu, rfl⟩ := Option.map_eq_some_iff.1 ha
          obtain ⟨v, hv, rfl⟩ := Option.map_eq_some_iff.1 hb
          have h := Item.Differ.tables ts.dropLast (ih hu hv) []
          rw [List.length_dropLast] at h
          dsimp only
          rw [hlast]
          exact h.put k₁ es
      · cases ha

theorem Entries.place_of_none (hk : get? k es = none) : Entries.place [k] es = [.key k] := by
  rw [Entries.place, hk]
  rfl

theorem addPair_concat (value : Item) : addPair (ks ++ [k]) value origin es =
    descend true ks (fun o es =>
      if (o = .dotted ∧ ks = []) ∨ (o ≠ .dotted ∧ ks ≠ []) then none
      else if (get? k es).isSome then none
      else some (es ++ [(k, value)])) origin es := by
  rw [addPair, List.getLast?_concat, List.dropLast_concat]

theorem Entries.Differ.addPair {value : Item} (h : Entries.Differ s s' path es fs)
    (hr : addPair ks value origin es = some r) (hr' : addPair ks value origin fs = some r') :
    Entries.Differ s s' path r r' := by
  rcases List.eq_nil_or_concat ks with rfl | ⟨ks, k, rfl⟩
  · cases hr
  rw [List.concat_eq_append, addPair_concat] at hr hr'
  refine h.descend ?_ hr hr'
  intro path o es fs r r' h hr hr'
  split at hr
  · cases hr
  · rw [if_neg ‹_›] at hr'
    split at hr
    · cases hr
    · split at hr'
      · cases hr'
      · cases hr
        cases hr'
        exact h.append _

theorem Item.Differ.addPair (h : Item.Differ s s' path i j)
    (hr : addPair ks i origin es = some r) (hr' : addPair ks j origin es = some r') :
    Entries.Differ s s' (Entries.place ks es ++ path) r r' := by
  rcases List.eq_nil_or_concat ks with rfl | ⟨ks, k, rfl⟩
  · cases hr
  rw [List.concat_eq_append, addPair_concat] at hr hr'
  rw [List.concat_eq_append]
  refine Entries.differ_descend ?_ hr hr'
  intro o es r r' hr hr'
  split at hr
  · cases hr
  · rw [if_neg ‹_›] at hr'
    split at hr
    · cases hr
    · next hk =>
        rw [if_neg hk] at hr'
        cases hr
        cases hr'
        have hnone : get? k es = none := Option.not_isSome_iff_eq_none.1 hk
        rw [Entries.place_of_none hnone]
        exact h.concat hnone

def enter? (k : String) (new : Item) (change : Item → Option Item) (es : Entries) : Option Entries :=
  match get? k es with
  | none => some (es ++ [(k, new)])
  | some i => (change i).map (put k · es)

def named? : Item → Option Item
  | .table .implied inner => some (.table .header inner)
  | _ => none

def grown? : Item → Option Item
  | .tables ts => some (.tables (ts ++ [[]]))
  | _ => none

theorem addTable_concat : addTable (ks ++ [k]) es =
    descend false ks (fun _ => enter? k (.table .header []) named?) .header es := by
  rw [addTable, List.getLast?_concat, List.dropLast_concat]
  refine congrArg (descend false ks · .header es) ?_
  funext _ es
  rw [enter?]
  cases hk : get? k es with
  | none => simp [hk]
  | some i =>
      simp only [Option.bind_eq_bind, Option.bind_some, hk]
      cases i with
      | table o inner => cases o <;> rfl
      | _ => rfl

theorem addElement_concat : addElement (ks ++ [k]) es =
    descend false ks (fun _ => enter? k (.tables [[]]) grown?) .header es := by
  rw [addElement, List.getLast?_concat, List.dropLast_concat]
  refine congrArg (descend false ks · .header es) ?_
  funext _ es
  rw [enter?]
  cases hk : get? k es with
  | none => simp [hk]
  | some i =>
      simp only [Option.bind_eq_bind, Option.bind_some, hk]
      cases i <;> rfl

theorem Entries.Differ.enter? {new : Item} {change : Item → Option Item}
    (hchange : ∀ {path i j u v}, Item.Differ s s' path i j → change i = some u → change j = some v →
      Item.Differ s s' path u v)
    (h : Entries.Differ s s' path es fs) (hr : enter? k new change es = some r)
    (hr' : enter? k new change fs = some r') : Entries.Differ s s' path r r' := by
  unfold Toml.enter? at hr hr'
  rcases h.get?_cases k with ⟨rest, i, j, rfl, hi, hj, hij⟩ | ⟨hk, he⟩
  · rw [hi] at hr
    rw [hj] at hr'
    obtain ⟨u, hu, rfl⟩ := Option.map_eq_some_iff.1 hr
    obtain ⟨v, hv, rfl⟩ := Option.map_eq_some_iff.1 hr'
    exact h.put (hchange hij hu hv)
  · rw [← he] at hr'
    cases hfound : get? k es with
    | none =>
        rw [hfound] at hr hr'
        cases hr
        cases hr'
        exact h.append _
    | some i =>
        rw [hfound] at hr hr'
        obtain ⟨u, hu, rfl⟩ := Option.map_eq_some_iff.1 hr
        obtain ⟨v, hv, rfl⟩ := Option.map_eq_some_iff.1 hr'
        cases hu.symm.trans hv
        exact h.put_same hk u

theorem Entries.Differ.addTable (h : Entries.Differ s s' path es fs)
    (hr : addTable ks es = some r) (hr' : addTable ks fs = some r') :
    Entries.Differ s s' path r r' := by
  rcases List.eq_nil_or_concat ks with rfl | ⟨ks, k, rfl⟩
  · cases hr
  rw [List.concat_eq_append, addTable_concat] at hr hr'
  refine h.descend (fun h hr hr' => h.enter? ?_ hr hr') hr hr'
  intro path i j u v hij hu hv
  cases hij with
  | table o hes =>
      cases o with
      | implied =>
          cases hu
          cases hv
          exact .table .header hes
      | _ => cases hu
  | _ => cases hu

theorem Entries.Differ.addElement (h : Entries.Differ s s' path es fs)
    (hr : addElement ks es = some r) (hr' : addElement ks fs = some r') :
    Entries.Differ s s' path r r' := by
  rcases List.eq_nil_or_concat ks with rfl | ⟨ks, k, rfl⟩
  · cases hr
  rw [List.concat_eq_append, addElement_concat] at hr hr'
  refine h.descend (fun h hr hr' => h.enter? ?_ hr hr') hr hr'
  intro path i j u v hij hu hv
  cases hij with
  | tables before hes after =>
      cases hu
      cases hv
      rw [List.append_assoc, List.append_assoc, List.cons_append, List.cons_append]
      exact .tables before hes _
  | _ => cases hu

theorem Entries.Differ.addUnder {header : List String} {value : Item}
    (h : Entries.Differ s s' path es fs)
    (hr : addUnder header ks value es = some r) (hr' : addUnder header ks value fs = some r') :
    Entries.Differ s s' path r r' := by
  rw [Toml.addUnder] at hr hr'
  refine h.descend ?_ hr hr'
  intro path o es fs r r' h hr hr'
  exact h.addPair hr hr'

theorem Item.Differ.addUnder {header : List String} (h : Item.Differ s s' path i j)
    (hr : addUnder header ks i es = some r) (hr' : addUnder header ks j es = some r') :
    Entries.Differ s s' (Entries.place (header ++ ks) es ++ path) r r' := by
  rw [Toml.addUnder] at hr hr'
  refine Entries.differ_descend ?_ hr hr'
  intro o es r r' hr hr'
  exact h.addPair hr hr'

end ChatTurn.Toml
