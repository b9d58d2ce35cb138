import ChatTurn.Pattern.Automaton.Size

namespace ChatTurn.Pattern.Automaton

abbrev Word := List Nat

def groups : List Word → List (List Word)
  | [] => [[]]
  | [] :: ws => [] :: groups ws
  | w :: ws =>
    match groups ws with
    | [] => [[w]]
    | g :: gs => (w :: g) :: gs

def firsts (ws : List Word) : List Nat := (ws.filterMap List.head?).eraseDups

def tailsAfter (b : Nat) (ws : List Word) : List Word :=
  ws.filterMap fun
    | c :: w => if c = b then some w else none
    | [] => none

/-- Ends in front of all branches count as one. -/
def joinEnds (ws : List Word) : List Word :=
  if ws.head? = some [] then [] :: ws.dropWhile List.isEmpty else ws

/-- Adds the states of a tree: at each branching a fork among the groups of its branches, and a
state for each group. Where nothing comes after, there is no state. -/
def tree : Nat → List Word → Size → Size
  | 0, _, s => s
  | fuel + 1, ws, s =>
    if ws.all List.isEmpty then s
    else
      let gs := groups (joinEnds ws)
      let filled := gs.filter (!·.isEmpty)
      filled.foldl (fun s g =>
          let bs := firsts g
          bs.foldl (fun s b => tree fuel (tailsAfter b g) s)
            (s.more 1 (if bs.length = 1 then 0 else Size.transitions bs.length)))
        (s.more 1 (Size.choices (filled.length + (gs.length - 1))))

def wordsSize (ws : List Word) : Size := tree (ws.foldr (fun w n => w.length + n) 1) ws ⟨1, 0⟩

end ChatTurn.Pattern.Automaton
