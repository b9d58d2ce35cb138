import ChatTurn.Codec.Tool
import ChatTurn.Proofs.Codec.Record
import ChatTurn.Tool.JsonCall

namespace ChatTurn

open Json

namespace Argument

/-- Keys that come again are put in one place, whether their values are read before or after. -/
theorem ofList_ofMembers (ms : List (String × Value)) :
    Ordered.ofList (ofMembers ms) = ofMembers (Ordered.ofList ms) := by
  rw [ofMembers_eq, ofMembers_eq]
  induction ms using List.reverseRecOn with
  | nil => rfl
  | append_singleton ms m ih =>
      rw [List.map_append, List.map_singleton, Ordered.ofList_concat, Ordered.ofList_concat, ih]
      exact Ordered.put_map ofValue m.1 m.2 _

theorem first_of_number {p : Place} {l : Literal} {n : Number} (h : l.number? = some n) :
    ((Reader.int64 p (.number l)).map integer).or ((Reader.double p (.number l)).map float) =
      some (ofNumber n) := by
  simp only [Reader.int64, Reader.double, h, Option.bind_some, Option.map_some]
  cases n with
  | double x => rfl
  | integer i =>
      simp only [ofNumber, int64?]
      by_cases hi : Int64.minValue.toInt ≤ i ∧ i ≤ Int64.maxValue.toInt
      · simp only [if_pos hi]
        rfl
      · simp only [if_neg hi]
        rfl

mutual

theorem read_eq (source : Source) (d : Nat) (n : Node) :
    Argument.read ⟨source, d⟩ n = (n.value? d).map ofValue := by
  cases hv : n.value? d with
  | none =>
      rw [Argument.read, Place.copy_of_value?_eq_none hv]
      rfl
  | some v =>
      rw [Argument.read, Place.copy_of_value? hv]
      -- no other form fits a node of its kind
      match n with
      | .null | .bool b =>
          cases hv
          rfl
      | .number l =>
          obtain ⟨n, hn, rfl⟩ := Option.map_eq_some_iff.1 hv
          have hnumber := first_of_number (p := ⟨.trial, d⟩) hn
          simp only [bind, Option.bind, Reader.null, Reader.bool, Option.map_none, Option.none_or,
            hnumber, Option.some_or, Option.map_some, ofValue]
      | .string s =>
          obtain ⟨t, rfl, rfl⟩ := Option.map_eq_some_iff.1 hv
          rfl
      | .array items =>
          rw [Node.value?] at hv
          obtain ⟨-, hv⟩ := Option.ite_none_right_eq_some.1 hv
          obtain ⟨vs, hvs, rfl⟩ := Option.map_eq_some_iff.1 hv
          have hitems := readItems_eq .trial (d + 1) items
          rw [hvs] at hitems
          simp only [bind, Option.bind, Place.enter, reduceCtorEq, false_and, if_false, hitems]
          rfl
      | .object members =>
          rw [Node.value?] at hv
          obtain ⟨-, hv⟩ := Option.ite_none_right_eq_some.1 hv
          obtain ⟨es, hes, rfl⟩ := Option.map_eq_some_iff.1 hv
          have hentries := readEntries_eq .trial (d + 1) members
          rw [hes] at hentries
          simp only [bind, Option.bind, Place.enter, reduceCtorEq, false_and, if_false, hentries,
            Option.map_some, ofValue, ← ofList_ofMembers]
          rfl

theorem readItems_eq (source : Source) (d : Nat) : (ns : List Node) →
    readItems ⟨source, d⟩ ns = (Node.values? d ns).map ofValues
  | [] => rfl
  | n :: ns => by
      rw [readItems, Node.values?, read_eq source d n, readItems_eq source d ns]
      cases n.value? d <;> cases Node.values? d ns <;> rfl

theorem readEntries_eq (source : Source) (d : Nat) : (ms : List (Option String × Node)) →
    readEntries ⟨source, d⟩ ms = (Node.entries? d ms).map ofMembers
  | [] => rfl
  | (k, n) :: ms => by
      rw [readEntries, Node.entries?, read_eq source d n, readEntries_eq source d ms]
      cases k <;> cases n.value? d <;> cases Node.entries? d ms <;> rfl

end

end Argument

variable {d : Nat}

theorem ToolCall.readArguments_object (hd : d + 1 < maxDepth) (source : Source)
    (ms : List (Option String × Node)) :
    readArguments ⟨source, d⟩ (.object ms) =
      (Node.entries? (d + 1) ms).map fun es => Argument.ofMembers (Ordered.ofList es) := by
  rw [readArguments, Place.enter_of_lt hd]
  simp only [bind, Option.bind, Argument.readEntries_eq, Option.map_map, Function.comp_def,
    Argument.ofList_ofMembers]

theorem ToolCall.map_readArguments (hd : d + 1 < maxDepth) (source : Source)
    (ms : List (Option String × Node)) :
    (readArguments ⟨source, d⟩ (.object ms)).map Argument.map =
      Argument.read ⟨source, d⟩ (.object ms) := by
  rw [Argument.read_eq, readArguments_object hd, Node.value?, if_pos hd, Option.map_map,
    Option.map_map]
  simp only [Function.comp_def, Argument.ofValue]

/-- Read from a text by trial or by way of its dynamic value, an argument is the same, or it is none
both ways. So are the arguments of a call, from the text of any object. -/
theorem Argument.readings_agree (s : String) :
    decode? Argument.read s = (parseValue? s.toList).map Argument.ofValue ∧
    ∀ ms, parse? s.toList = some (.object ms) →
      decode? ToolCall.readArguments s = (Arguments.parse s.toList).toOption := by
  constructor
  · rw [decode?, parseValue?, Option.map_bind]
    exact Option.bind_congr fun n _ => Argument.read_eq .text 0 n
  · intro ms h
    obtain ⟨htrim, hne⟩ := parse?_trim h
    have hd : 0 + 1 < maxDepth := by decide
    have hread : decode? ToolCall.readArguments s =
        (Node.entries? 1 ms).map fun es => ofMembers (Ordered.ofList es) := by
      rw [decode?, h, Option.bind_some]
      exact ToolCall.readArguments_object hd .text ms
    rw [hread, Arguments.parse, parseValue?, htrim, Option.bind_some, Node.value?, if_pos hd,
      List.isEmpty_eq_false_iff.2 hne]
    cases Node.entries? 1 ms <;> rfl

end ChatTurn
