import ChatTurn.Proofs.Aggregator.Renaming
import ChatTurn.Proofs.Scripted.Turn

namespace ChatTurn

variable {ρ : String → String} {ids ids' : IdSupply}

theorem Event.rename_of_isOpen {e : Event} (h : e.isOpen = true) : e.rename ρ = e := by
  rcases isOpen_iff.1 h with ⟨s, rfl⟩ | ⟨s, rfl⟩ | ⟨s, rfl⟩ <;> rfl

theorem Event.map_rename_of_isOpen {es : List Event} (h : ∀ e ∈ es, e.isOpen = true) :
    es.map (rename ρ) = es := by
  rw [List.map_congr_left fun e he => rename_of_isOpen (h e he)]
  exact List.map_id es

theorem numbered_rename (hρ : ∀ n, ρ (ids n) = ids' n) (n : Nat) (is : List Invocation) :
    numbered ids' n is = (numbered ids n is).map (ToolCall.rename ρ) := by
  induction is generalizing n with
  | nil => rfl
  | cons i is ih =>
      rw [numbered, numbered, List.map_cons, ih, ← hρ]
      rfl

namespace Decoder

theorem resolutions_rename (stop : StopReason) (cs : List ToolCall) :
    resolutions stop (cs.map (ToolCall.rename ρ)) = (resolutions stop cs).map (Event.rename ρ) := by
  fun_induction resolutions stop cs with
  | case1 => rfl
  | case2 c => rfl
  | case3 c cs hc ih =>
      cases cs with
      | nil => exact absurd rfl hc
      | cons d ds =>
          exact congrArg (.resolved (c.rename ρ) none :: ·) ih

theorem conclude_rename (hρ : ∀ n, ρ (ids n) = ids' n) (form : CallForm) (buffer : List Char)
    (stop : StopReason) :
    conclude ids' form buffer stop = (conclude ids form buffer stop).map (Event.rename ρ) := by
  cases hu : form.understood? buffer with
  | none =>
      obtain ⟨os, hos, hc⟩ := conclude_of_none hu stop
      rw [hc, hc, List.map_append,
        Event.map_rename_of_isOpen fun e he => Event.isOpen_of_isText (hos e he)]
      rfl
  | some p =>
      obtain ⟨-, os, hos, -, hc⟩ := conclude_of_some hu stop
      rw [hc, hc, List.map_append,
        Event.map_rename_of_isOpen fun e he => Event.isOpen_of_isText (hos e he),
        numbered_rename hρ, resolutions_rename]

theorem finish_rename (hρ : ∀ n, ρ (ids n) = ids' n) (stop : StopReason) (d : Decoder) :
    (d.finish ids' stop).2 = (d.finish ids stop).2.map (Event.rename ρ) := by
  cases d with
  | prose leading held =>
      rw [finish, finish, List.map_append,
        Event.map_rename_of_isOpen fun e he => Event.isOpen_of_isText (isText_of_mem_flush he)]
      rfl
  | call form buffer =>
      rw [finish, finish, List.map_append, conclude_rename hρ]
      rfl
  | ended s => rfl

theorem run_rename (hρ : ∀ n, ρ (ids n) = ids' n) (format : Option PromptFormat)
    (tokens : List String) (stop : StopReason) :
    (new format).run ids' tokens stop = ((new format).run ids tokens stop).map (Event.rename ρ) := by
  obtain ⟨s, -, hr⟩ := run_eq_course (reached_new format).isDone tokens stop
  rw [hr, hr, List.map_append, Event.map_rename_of_isOpen (reached_course format _).isOpen,
    finish_rename hρ]

end Decoder

theorem Scripted.isNatural (p : Scripted) (r : Request) :
    IsNatural (fun _ => False) fun ids => p.turn ids r := by
  intro ids ids' ρ hρ _
  simp only [turn, events, generation]
  cases p.output r with
  | error fault => rfl
  | ok output =>
      obtain ⟨paid, -, hg⟩ := generate_eq_run (p.budget r) (.forRequest r) (Token.ofText output)
      have hrun : (Decoder.forRequest r).run ids' paid .outOfTokens =
          ((Decoder.forRequest r).run ids paid .outOfTokens).map (Event.rename ρ) :=
        Decoder.run_rename hρ _ paid .outOfTokens
      simp only [Except.map, hg, hrun, List.map_cons, List.map_map]
      rfl

end ChatTurn
