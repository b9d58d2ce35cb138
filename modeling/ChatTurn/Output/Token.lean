import ChatTurn.Text.Search
import ChatTurn.Text.White

namespace ChatTurn

namespace Token

def endOfTurn : String := "<|eot_id|>"

def endOfMessage : String := "<|eom_id|>"

def builtinCall : String := "<|python_tag|>"

def controlStart : List Char := ['<', '|']

def controlEnd : List Char := ['|', '>']

def isControl (cs : List Char) : Bool :=
  Text.startsWith controlStart cs && Text.endsWith controlEnd cs

def isStop (token : String) : Bool := token = endOfTurn || token = endOfMessage

/-- The length of a word and the white space before it, cut where a control token may begin. -/
def wordLength (cs : List Char) : Nat :=
  let white := (cs.takeWhile isWhite).length
  let n := white + ((cs.drop white).takeWhile (!isWhite ·)).length
  match Text.cut? controlStart (cs.take n) with
  | some (_ :: before, _) => before.length + 1
  | _ => n

def length (cs : List Char) : Nat :=
  if Text.startsWith controlStart cs then
    match Text.cut? controlEnd cs with
    | some (before, _) => before.length + 2
    | none => wordLength cs
  else wordLength cs

theorem wordLength_pos {cs : List Char} (h : cs ≠ []) : 0 < wordLength cs := by
  rw [wordLength]
  split
  · exact Nat.succ_pos _
  · obtain ⟨c, cs, rfl⟩ := List.exists_cons_of_ne_nil h
    cases hc : isWhite c with
    | true =>
        simp only [List.takeWhile_cons, hc, if_true, List.length_cons]
        omega
    | false => simp [hc]

/-- No token is empty, so that cutting them off comes to an end. -/
theorem length_pos {cs : List Char} (h : cs ≠ []) : 0 < length cs := by
  rw [length]
  split
  · split
    · exact Nat.succ_pos _
    · exact wordLength_pos h
  · exact wordLength_pos h

def split (cs : List Char) : List (List Char) :=
  if _ : cs = [] then [] else cs.take (length cs) :: split (cs.drop (length cs))
termination_by cs.length
decreasing_by
  have h : cs ≠ [] := ‹_›
  rw [List.length_drop]
  exact Nat.sub_lt (List.length_pos_iff.2 h) (length_pos h)

theorem flatten_split (cs : List Char) : (split cs).flatten = cs := by
  fun_induction split cs with
  | case1 => rfl
  | case2 cs h ih => rw [List.flatten_cons, ih, List.take_append_drop]

def ofText (s : String) : List String := (split s.toList).map String.ofList

end Token

end ChatTurn
