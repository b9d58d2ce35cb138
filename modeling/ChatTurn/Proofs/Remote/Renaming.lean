import ChatTurn.Proofs.Aggregator.Renaming
import ChatTurn.Proofs.Remote.Ending

namespace ChatTurn.Remote

variable {ρ : String → String} {ids ids' : IdSupply}

def Bears (frames : List Frame) (s : String) : Prop :=
  ∃ f ∈ frames, ∃ c, f.chunk? = some c ∧ ∃ choice ∈ c.choices, ∃ g ∈ choice.fragments, g.id = some s

namespace Turn

def Keeps (ρ : String → String) (t : Turn) : Prop :=
  ∀ p ∈ t.pending, ∀ s, p.2.id = some s → ρ s = s

/-- The same step under another supply. -/
structure Twin (ρ : String → String) (x x' : Turn × List Event) : Prop where
  state : x'.1 = x.1
  events : x'.2 = x.2.map (Event.rename ρ)
  keeps : Keeps ρ x.1

variable {t : Turn}

theorem keeps_addFragment {f : CallFragment} (hf : ∀ s, f.id = some s → ρ s = s)
    {pending : List (UInt32 × OpenCall)} (h : ∀ p ∈ pending, ∀ s, p.2.id = some s → ρ s = s) :
    ∀ p ∈ addFragment f pending, ∀ s, p.2.id = some s → ρ s = s := by
  have hadd : ∀ c : OpenCall, (∀ s, c.id = some s → ρ s = s) →
      ∀ s, (c.add f).id = some s → ρ s = s := by
    intro c hc s hs
    rcases Option.or_eq_some_iff.1 hs with hs | ⟨-, hs⟩
    · exact hf s hs
    · exact hc s hs
  fun_induction addFragment f pending with
  | case1 => exact List.forall_mem_singleton.2 (hadd {} nofun)
  | case2 i c rest hlt => exact List.forall_mem_cons.2 ⟨hadd {} nofun, h⟩
  | case3 c rest hlt =>
      obtain ⟨hc, hrest⟩ := List.forall_mem_cons.1 h
      exact List.forall_mem_cons.2 ⟨hadd c hc, hrest⟩
  | case4 i c rest hlt he ih =>
      obtain ⟨hc, hrest⟩ := List.forall_mem_cons.1 h
      exact List.forall_mem_cons.2 ⟨hc, ih hrest⟩

theorem twin_onFragments (h : t.Keeps ρ) {fs : List CallFragment}
    (hfs : ∀ f ∈ fs, ∀ s, f.id = some s → ρ s = s) :
    Twin ρ (t.onFragments fs) (t.onFragments fs) := by
  induction fs generalizing t with
  | nil => exact ⟨rfl, rfl, h⟩
  | cons f fs ih =>
      obtain ⟨hf, hrest⟩ := List.forall_mem_cons.1 hfs
      have hk : (t.onFragment f).1.Keeps ρ := keeps_addFragment hf h
      obtain ⟨hs, he, hk⟩ := ih hk hrest
      exact ⟨rfl, congrArg ((t.onFragment f).2 :: ·) he, hk⟩

theorem resolve_rename (hρ : ∀ n, ρ (ids n) = ids' n) (n : Nat) {c : OpenCall}
    (hc : ∀ s, c.id = some s → ρ s = s) :
    c.resolve (ids' n) = (c.resolve (ids n)).map (ToolCall.rename ρ) := by
  have hid : c.id.getD (ids' n) = ρ (c.id.getD (ids n)) := by
    cases hs : c.id with
    | none => exact (hρ n).symm
    | some s => exact (hc s hs).symm
  simp only [OpenCall.resolve, hid]
  split
  · rfl
  · cases Arguments.parse c.arguments.toList <;> rfl

theorem resolutions_rename (hρ : ∀ n, ρ (ids n) = ids' n) (stop : StopReason) (n : Nat)
    {cs : List OpenCall} (hcs : ∀ c ∈ cs, ∀ s, c.id = some s → ρ s = s) :
    resolutions ids' stop n cs = (resolutions ids stop n cs).map (Event.rename ρ) := by
  induction cs generalizing n with
  | nil => rfl
  | cons c cs ih =>
      obtain ⟨hc, hrest⟩ := List.forall_mem_cons.1 hcs
      rw [resolutions, resolutions, List.map_cons, ih (n + 1) hrest, resolve_rename hρ n hc]
      cases c.resolve (ids n) <;> rfl

theorem twin_onStop (hρ : ∀ n, ρ (ids n) = ids' n) (h : t.Keeps ρ) (stop : StopReason) :
    Twin ρ (t.onStop ids stop) (t.onStop ids' stop) := by
  rw [onStop, onStop]
  split
  · exact ⟨rfl, rfl, h⟩
  · refine ⟨rfl, resolutions_rename hρ stop 0 fun c hc => ?_,
      fun _ hp => absurd hp List.not_mem_nil⟩
    obtain ⟨p, hp, rfl⟩ := List.mem_map.1 hc
    exact h p hp

theorem map_rename_onContent (content : Option String) :
    (onContent content).map (Event.rename ρ) = onContent content := by
  cases content with
  | none => rfl
  | some s =>
      rw [onContent]
      split <;> rfl

theorem Twin.append {x x' y y' : Turn × List Event} (h : Twin ρ x x') (hy : Twin ρ y y') :
    Twin ρ (y.1, x.2 ++ y.2) (y'.1, x'.2 ++ y'.2) :=
  ⟨hy.state, by rw [h.events, hy.events, List.map_append], hy.keeps⟩

theorem twin_onChoice (hρ : ∀ n, ρ (ids n) = ids' n) (h : t.Keeps ρ) {c : Choice}
    (hc : ∀ f ∈ c.fragments, ∀ s, f.id = some s → ρ s = s) :
    Twin ρ (t.onChoice ids c) (t.onChoice ids' c) := by
  have hfragments := twin_onFragments h hc
  have hcontent : Twin ρ (t, onContent c.delta.content) (t, onContent c.delta.content) :=
    ⟨rfl, (map_rename_onContent _).symm, h⟩
  have hopen := hcontent.append hfragments
  cases hr : c.finishReason with
  | none =>
      simp only [onChoice, hr, List.append_nil]
      exact hopen
  | some reason =>
      simp only [onChoice, hr]
      exact hopen.append (twin_onStop hρ hfragments.keeps (stopReason reason))

theorem twin_onChoices (hρ : ∀ n, ρ (ids n) = ids' n) (h : t.Keeps ρ) (cs : List Choice)
    (hcs : ∀ c ∈ cs, ∀ f ∈ c.fragments, ∀ s, f.id = some s → ρ s = s) :
    Twin ρ (t.onChoices ids cs) (t.onChoices ids' cs) := by
  induction cs generalizing t with
  | nil => exact ⟨rfl, rfl, h⟩
  | cons c cs ih =>
      obtain ⟨hc, hrest⟩ := List.forall_mem_cons.1 hcs
      have hfirst := twin_onChoice hρ h hc
      rw [onChoices_cons, onChoices_cons, hfirst.state]
      exact hfirst.append (ih hfirst.keeps hrest)

theorem twin_start (h : t.Keeps ρ) : Twin ρ t.start t.start := by
  rw [start]
  split
  · exact ⟨rfl, rfl, h⟩
  · exact ⟨rfl, rfl, h⟩

theorem twin_onChunk (hρ : ∀ n, ρ (ids n) = ids' n) (h : t.Keeps ρ) {c : Chunk}
    (hc : ∀ choice ∈ c.choices, ∀ f ∈ choice.fragments, ∀ s, f.id = some s → ρ s = s) :
    Twin ρ (t.onChunk ids c) (t.onChunk ids' c) := by
  have hstart := twin_start h
  have hchoices := twin_onChoices hρ hstart.keeps (c.choices.filter (·.index = 0))
    fun choice hm => hc choice (List.mem_filter.1 hm).1
  simp only [onChunk]
  split
  · exact hstart
  · exact hstart.append hchoices

theorem onDone_rename (hρ : ∀ n, ρ (ids n) = ids' n) (h : t.Keeps ρ) :
    (t.onDone ids').2 = (t.onDone ids).2.map (Event.rename ρ) := by
  have hstart := twin_start h
  have hstop := twin_onStop hρ hstart.keeps .endOfTurn
  simp only [onDone]
  split
  · exact hstart.events
  · rw [hstop.state, hstop.events, List.map_append, List.map_append, ← hstart.events]
    rfl

theorem items_rename (hρ : ∀ n, ρ (ids n) = ids' n) (h : t.Keeps ρ) {frames : List Frame}
    (hb : ∀ s, Bears frames s → ρ s = s) :
    items ids' t frames = (items ids t frames).map (·.map (Event.rename ρ)) := by
  have hdone : ∀ {t : Turn}, t.Keeps ρ → ((t.onDone ids').2.map .ok : List StreamItem) =
      ((t.onDone ids).2.map .ok : List StreamItem).map (·.map (Event.rename ρ)) := fun h => by
    rw [onDone_rename hρ h, List.map_map, List.map_map]
    rfl
  induction frames generalizing t with
  | nil =>
      rw [items, items, onEnd, onEnd]
      split
      · exact hdone h
      · rfl
  | cons f frames ih =>
      have hrest : ∀ s, Bears frames s → ρ s = s := by
        rintro s ⟨g, hg, hs⟩
        exact hb s ⟨g, List.mem_cons_of_mem f hg, hs⟩
      rcases frame_cases f with hd | ⟨err, he⟩ | ⟨hf, c, hc⟩ | ⟨-, hn⟩
      · rw [items_done hd, items_done hd]
        exact hdone h
      · rw [items_error he, items_error he]
        rfl
      · have htwin := twin_onChunk hρ h fun choice hm g hg s hs =>
          hb s ⟨f, List.mem_cons_self, c, hc, choice, hm, g, hg, hs⟩
        rw [items_chunk hf hc, items_chunk hf hc, htwin.state, htwin.events, List.map_append,
          ih htwin.keeps hrest, List.map_map, List.map_map]
        rfl
      · rw [items_noise hn, items_noise hn]
        exact ih h hrest

end Turn

/-- The turns that come of one reply differ in the ids of their supplies alone. -/
theorem Reply.isNatural (r : Reply) :
    IsNatural (Bears r.stripped.frames) fun ids => r.items ids := by
  intro ids ids' ρ hρ hown
  simp only [items]
  split
  · exact congrArg Except.ok (Turn.items_rename hρ (fun _ hp => absurd hp List.not_mem_nil) hown)
  · rfl

end ChatTurn.Remote
