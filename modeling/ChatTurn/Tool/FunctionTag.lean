import ChatTurn.Tool.JsonCall

namespace ChatTurn

namespace FunctionTag

def opening : List Char := "<function=".toList

def closing : List Char := "</function>".toList

def ofInner (inner : List Char) : Except CallFault Invocation :=
  match Text.cut? ['>'] inner with
  | none => .error .openTagName
  | some (before, body) =>
    let name := Text.trim before
    if !isToolName name then .error (.functionName (String.ofList name))
    else (Arguments.parse body).map (⟨ToolName.parse (String.ofList name), ·⟩)

def parse (tag : List Char) : Except MalformedCall Invocation :=
  Except.mapError (⟨String.ofList tag, ·⟩) <|
    match (Text.stripStart? opening (Text.trim tag)).bind (Text.stripEnd? closing) with
    | none => .error .notATag
    | some inner => ofInner inner

/-- The text before the first tag, that tag, and the text after it; none where no tag opens. -/
def next? (cs : List Char) : Option (Except MalformedCall (List Char × List Char × List Char)) :=
  (Text.cut? opening cs).map fun (before, after) =>
    match Text.cut? closing after with
    | none => .error ⟨String.ofList (opening ++ after), .unterminatedTag⟩
    | some (inner, rest) => .ok (before, opening ++ inner ++ closing, rest)

theorem length_of_next? {cs before tag rest : List Char}
    (h : next? cs = some (.ok (before, tag, rest))) : rest.length < cs.length := by
  cases hc : Text.cut? opening cs with
  | none => simp [next?, hc] at h
  | some p =>
      obtain ⟨b, a⟩ := p
      simp only [next?, hc, Option.map_some, Option.some.injEq] at h
      cases hd : Text.cut? closing a with
      | none => simp [hd] at h
      | some q =>
          obtain ⟨i, r⟩ := q
          simp only [hd, Except.ok.injEq, Prod.mk.injEq] at h
          obtain ⟨_, _, rfl⟩ := h
          have h₁ := Text.length_of_cut? hc
          have h₂ := Text.length_of_cut? hd
          have h₃ : opening.length = 10 := by decide
          omega

def scan (cs : List Char) : Except MalformedCall (List Char × List Invocation) :=
  match h : next? cs with
  | none => .ok (cs, [])
  | some (.error e) => .error e
  | some (.ok (before, tag, rest)) =>
    have := length_of_next? h
    match parse tag with
    | .error e => .error e
    | .ok call => (scan rest).map fun (prose, calls) => (before ++ prose, call :: calls)
termination_by cs.length

/-- Prose loses its trailing white space where it held a tag. -/
def extract (cs : List Char) : Except MalformedCall (List Char × List Invocation) :=
  (scan cs).map fun (prose, calls) => (if calls.isEmpty then prose else Text.trimEnd prose, calls)

end FunctionTag

end ChatTurn
