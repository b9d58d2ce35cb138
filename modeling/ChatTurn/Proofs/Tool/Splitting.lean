import ChatTurn.Proofs.Text.Trim
import ChatTurn.Text.Split
import ChatTurn.Tool.Literal
import Mathlib.Data.List.Forall2

namespace ChatTurn.Literal

def outside (d : Nat) : Nesting := ⟨none, false, d⟩

def within (q : Char) (d : Nat) : Nesting := ⟨some q, false, d⟩

def IsQuote (q : Char) : Prop := q = '"' ∨ q = '\''

/-- The splitter finds no cut in `cs`, and has `s'` open after it where `s` was open before. -/
def Takes (s : Nesting) (cs : List Char) (s' : Nesting) : Prop :=
  ∀ whole rest, parts whole s (cs ++ rest) = (parts whole s' rest).map fun p => (cs ++ p.1, p.2)

variable {s s' s'' : Nesting} {cs ds : List Char} {c q : Char} {d : Nat}

theorem Takes.nil : Takes s [] s := by
  intro whole rest
  rw [List.nil_append]
  cases parts whole s rest <;> rfl

theorem Takes.append (h : Takes s cs s') (h' : Takes s' ds s'') : Takes s (cs ++ ds) s'' := by
  intro whole rest
  rw [List.append_assoc, h, h']
  cases parts whole s'' rest with
  | error e => rfl
  | ok p => simp [Except.map]

theorem takes_open (h : IsQuote q) : Takes (outside d) [q] (within q d) := by
  intro whole rest
  rcases h with rfl | rfl <;> rfl

theorem takes_close (h : IsQuote q) : Takes (within q d) [q] (outside d) := by
  intro whole rest
  rcases h with rfl | rfl <;> simp [parts, within, outside]

theorem takes_backslash : Takes (within q d) ['\\'] ⟨some q, true, d⟩ := fun _ _ => rfl

theorem takes_after_backslash (c : Char) : Takes ⟨some q, true, d⟩ [c] (within q d) :=
  fun _ _ => rfl

theorem takes_escaped (c : Char) : Takes (within q d) ['\\', c] (within q d) :=
  takes_backslash.append (takes_after_backslash c)

theorem takes_quoted (hb : c ≠ '\\') (hq : c ≠ q) : Takes (within q d) [c] (within q d) := by
  intro whole rest
  simp [parts, within, hb, hq]

theorem takes_opening (h : c ∈ ['(', '[', '\x7b']) : Takes (outside d) [c] (outside (d + 1)) := by
  intro whole rest
  simp only [List.mem_cons, List.not_mem_nil, or_false] at h
  rcases h with rfl | rfl | rfl <;> rfl

theorem takes_closing (h : c ∈ [')', ']', '\x7d']) : Takes (outside (d + 1)) [c] (outside d) := by
  intro whole rest
  simp only [List.mem_cons, List.not_mem_nil, or_false] at h
  rcases h with rfl | rfl | rfl <;> rfl

theorem parts_comma (whole : String) (cs : List Char) : parts whole (outside 0) (',' :: cs) =
    (parts whole (outside 0) cs).map fun p => ([], p.1 :: p.2) := rfl

theorem takes_comma : Takes (outside (d + 1)) [','] (outside (d + 1)) := fun _ _ => rfl

def marks : List Char := ['"', '\'', '(', '[', '\x7b', ')', ']', '\x7d', ',']

theorem takes_plain (h : c ∉ marks) : Takes (outside d) [c] (outside d) := by
  intro whole rest
  simp only [marks, List.mem_cons, List.not_mem_nil, or_false, not_or] at h
  simp [parts, outside, h]

/-- Nothing is open after the text that was not open before. -/
def Closed (cs : List Char) : Prop := ∀ d, Takes (outside d) cs (outside d)

def Closing (cs : List Char) : Prop := ∀ d, Takes (outside (d + 1)) cs (outside d)

def Inner (cs : List Char) : Prop := ∀ d, Takes (outside (d + 1)) cs (outside (d + 1))

theorem Closed.inner (h : Closed cs) : Inner cs := fun d => h (d + 1)

theorem Closed.append (h : Closed cs) (h' : Closed ds) : Closed (cs ++ ds) :=
  fun d => (h d).append (h' d)

theorem Inner.append (h : Inner cs) (h' : Inner ds) : Inner (cs ++ ds) :=
  fun d => (h d).append (h' d)

theorem Inner.closing (h : Inner cs) (h' : Closing ds) : Closing (cs ++ ds) :=
  fun d => (h d).append (h' d)

theorem inner_comma : Inner [','] := fun _ => takes_comma

theorem Closing.bracket (h : Closing cs) (hc : c ∈ ['(', '[', '{']) : Closed (c :: cs) :=
  fun d => (takes_opening hc).append (h d)

theorem closing_singleton (h : c ∈ [')', ']', '\x7d']) : Closing [c] := fun _ => takes_closing h

theorem closed_of_plain (h : ∀ c ∈ cs, c ∉ marks) : Closed cs := by
  intro d
  induction cs with
  | nil => exact .nil
  | cons c cs ih =>
      obtain ⟨hc, h⟩ := List.forall_mem_cons.1 h
      exact (takes_plain hc).append (ih h)

theorem closed_of_all (h : cs.all (!marks.contains ·) = true) : Closed cs := by
  refine closed_of_plain fun c hc hm => ?_
  have hn := List.all_eq_true.1 h c hc
  rw [List.contains_iff_mem.2 hm] at hn
  cases hn

theorem joinWith_cons_cons (sep : Char) (t u : List Char) (us : List (List Char)) :
    Text.joinWith sep (t :: u :: us) = t ++ sep :: Text.joinWith sep (u :: us) := rfl

theorem parts_joinWith {t : List Char} {ts : List (List Char)} (h : ∀ u ∈ t :: ts, Closed u)
    (whole : String) : parts whole (outside 0) (Text.joinWith ',' (t :: ts)) = .ok (t, ts) := by
  induction ts generalizing t with
  | nil =>
      have ht := (List.forall_mem_cons.1 h).1 0 whole []
      rw [List.append_nil] at ht
      rw [Text.joinWith, ht]
      exact congrArg (fun u => Except.ok (u, [])) (List.append_nil t)
  | cons u us ih =>
      obtain ⟨ht, h⟩ := List.forall_mem_cons.1 h
      have hcomma : parts whole (outside 0) (',' :: Text.joinWith ',' (u :: us)) =
          .ok ([], u :: us) := by
        rw [parts_comma, ih h]
        rfl
      rw [joinWith_cons_cons, ht 0, hcomma]
      exact congrArg (fun v => Except.ok (v, u :: us)) (List.append_nil t)

/-- Closed texts that are joined by commas fall apart again. -/
theorem splitTopLevel_joinWith {ts : List (List Char)} (hne : ts ≠ []) (h : ∀ t ∈ ts, Closed t) :
    splitTopLevel (Text.joinWith ',' ts) = .ok ts := by
  cases ts with
  | nil => exact absurd rfl hne
  | cons t ts =>
      have hparts := parts_joinWith h (String.ofList (Text.joinWith ',' (t :: ts)))
      rw [splitTopLevel]
      exact (congrArg _ hparts).trans rfl

def joined (ts : List (List Char)) : List Char := [',', ' '].intercalate ts

theorem joined_cons_cons (t u : List Char) (us : List (List Char)) :
    joined (t :: u :: us) = t ++ ([','] ++ ([' '] ++ joined (u :: us))) := by
  simp [joined, List.intercalate]

theorem joined_cons (t : List Char) (ts : List (List Char)) :
    joined (t :: ts) = Text.joinWith ',' (t :: ts.map (' ' :: ·)) := by
  induction ts generalizing t with
  | nil => simp [joined, Text.joinWith, List.intercalate]
  | cons u us ih =>
      have hspace : Text.joinWith ',' ((' ' :: u) :: us.map (' ' :: ·)) =
          ' ' :: Text.joinWith ',' (u :: us.map (' ' :: ·)) := by
        cases us <;> rfl
      rw [joined_cons_cons, ih, List.map_cons, joinWith_cons_cons, hspace]
      rfl

theorem closed_space : Closed [' '] := closed_of_all rfl

theorem inner_joined {ts : List (List Char)} (h : ∀ t ∈ ts, Closed t) : Inner (joined ts) := by
  induction ts with
  | nil => exact fun _ => .nil
  | cons t ts ih =>
      obtain ⟨ht, h⟩ := List.forall_mem_cons.1 h
      cases ts with
      | nil =>
          simp only [joined, List.intercalate, List.intersperse, List.flatten_cons,
            List.flatten_nil, List.append_nil]
          exact ht.inner
      | cons u us =>
          rw [joined_cons_cons]
          exact ht.inner.append (inner_comma.append (closed_space.inner.append (ih h)))

theorem exists_splitTopLevel {ts : List (List Char)} (h : ∀ t ∈ ts, Closed t)
    (htight : ∀ t ∈ ts, Text.IsTight t) : ∃ raws, splitTopLevel (joined ts) = .ok raws ∧
      List.Forall₂ (fun raw t => Text.trim raw = t) (raws.filter (!Text.isBlank ·)) ts := by
  cases ts with
  | nil => exact ⟨[[]], rfl, .nil⟩
  | cons t ts =>
      obtain ⟨ht, hts⟩ := List.forall_mem_cons.1 h
      obtain ⟨ht', hts'⟩ := List.forall_mem_cons.1 htight
      refine ⟨t :: ts.map (' ' :: ·), ?_, ?_⟩
      · rw [joined_cons]
        apply splitTopLevel_joinWith (List.cons_ne_nil _ _)
        refine List.forall_mem_cons.2 ⟨ht, List.forall_mem_map.2 fun u hu => ?_⟩
        exact closed_space.append (hts u hu)
      · have hfilter : (t :: ts.map (' ' :: ·)).filter (!Text.isBlank ·) =
            t :: ts.map (' ' :: ·) := by
          rw [List.filter_eq_self]
          refine List.forall_mem_cons.2 ⟨by simp [ht'.isBlank_eq_false], ?_⟩
          refine List.forall_mem_map.2 fun u hu => ?_
          have hu' := (hts' u hu).isBlank_eq_false
          rw [Text.isBlank] at hu' ⊢
          simp [hu']
        rw [hfilter]
        refine .cons ht'.trim ?_
        rw [List.forall₂_map_left_iff, List.forall₂_same]
        exact fun u hu => (hts' u hu).trim

end ChatTurn.Literal
