namespace ChatTurn.Text

def stripStart? : List Char → List Char → Option (List Char)
  | [], cs => some cs
  | _ :: _, [] => none
  | p :: pat, c :: cs => if p = c then stripStart? pat cs else none

def stripEnd? (pat cs : List Char) : Option (List Char) :=
  (stripStart? pat.reverse cs.reverse).map List.reverse

def startsWith (pat cs : List Char) : Bool := (stripStart? pat cs).isSome

def endsWith (pat cs : List Char) : Bool := (stripEnd? pat cs).isSome

def cut? (pat : List Char) : List Char → Option (List Char × List Char)
  | [] => (stripStart? pat []).map fun rest => ([], rest)
  | c :: cs =>
    match stripStart? pat (c :: cs) with
    | some rest => some ([], rest)
    | none => (cut? pat cs).map fun (before, after) => (c :: before, after)

def contains (pat cs : List Char) : Bool := (cut? pat cs).isSome

theorem stripStart?_eq_some_iff {pat cs rest : List Char} :
    stripStart? pat cs = some rest ↔ cs = pat ++ rest := by
  induction pat generalizing cs with
  | nil => simp [stripStart?]
  | cons p pat ih =>
      cases cs with
      | nil => simp [stripStart?]
      | cons c cs =>
          by_cases h : p = c
          · simp [stripStart?, h, ih]
          · simp only [stripStart?, h, if_false, List.cons_append, List.cons.injEq, reduceCtorEq,
              false_iff, not_and]
            exact fun hc => absurd hc.symm h

theorem eq_of_cut? {pat cs before after : List Char} (h : cut? pat cs = some (before, after)) :
    cs = before ++ pat ++ after := by
  induction cs generalizing before with
  | nil =>
      cases hs : stripStart? pat [] with
      | none => simp [cut?, hs] at h
      | some rest =>
          simp only [cut?, hs, Option.map_some, Option.some.injEq, Prod.mk.injEq] at h
          obtain ⟨rfl, rfl⟩ := h
          exact stripStart?_eq_some_iff.1 hs
  | cons c cs ih =>
      cases hs : stripStart? pat (c :: cs) with
      | some rest =>
          simp only [cut?, hs, Option.some.injEq, Prod.mk.injEq] at h
          obtain ⟨rfl, rfl⟩ := h
          exact stripStart?_eq_some_iff.1 hs
      | none =>
          cases hc : cut? pat cs with
          | none => simp [cut?, hs, hc] at h
          | some p =>
              obtain ⟨b, a⟩ := p
              simp only [cut?, hs, hc, Option.map_some, Option.some.injEq, Prod.mk.injEq] at h
              obtain ⟨rfl, rfl⟩ := h
              simp [ih hc]

theorem length_of_cut? {pat cs before after : List Char} (h : cut? pat cs = some (before, after)) :
    cs.length = before.length + pat.length + after.length := by
  rw [eq_of_cut? h]
  simp [Nat.add_assoc]

end ChatTurn.Text
