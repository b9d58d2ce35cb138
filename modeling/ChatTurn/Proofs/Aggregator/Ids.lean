import ChatTurn.Aggregator

namespace ChatTurn

/-- An outcome without the ids of its calls. -/
def anonymous (r : Except Error Completion) :
    Except Error (String × StopReason × List Invocation) :=
  r.map fun m => (m.content, m.stop, m.calls.map (·.toInvocation))

namespace Aggregator

structure Alike (a b : Aggregator) : Prop where
  phase : a.phase = b.phase
  content : a.content = b.content
  calls : a.calls.map (·.toInvocation) = b.calls.map (·.toInvocation)
  uncovered : a.uncovered.map (·.toInvocation) = b.uncovered.map (·.toInvocation)

variable {a b : Aggregator}

theorem any_same (cs : List ToolCall) (i : Invocation) :
    cs.any (·.toInvocation.same i) = (cs.map (·.toInvocation)).any (·.same i) := by
  rw [List.any_map]
  rfl

theorem map_eraseP_same (cs : List ToolCall) (i : Invocation) :
    (cs.eraseP (·.toInvocation.same i)).map (·.toInvocation) =
      (cs.map (·.toInvocation)).eraseP (·.same i) := by
  rw [List.eraseP_map]
  rfl

theorem Alike.any_uncovered (h : Alike a b) (i : Invocation) :
    a.uncovered.any (·.toInvocation.same i) = b.uncovered.any (·.toInvocation.same i) := by
  rw [any_same, any_same, h.uncovered]

theorem Alike.restate (h : Alike a b) (ids ids' : IdSupply) (i : Invocation) :
    Alike (restate ids a i) (Aggregator.restate ids' b i) := by
  rw [Aggregator.restate, Aggregator.restate, h.any_uncovered]
  split
  · refine ⟨h.phase, h.content, h.calls, ?_⟩
    rw [map_eraseP_same, map_eraseP_same, h.uncovered]
  · refine ⟨h.phase, h.content, ?_, h.uncovered⟩
    rw [List.map_append, List.map_append, h.calls]
    rfl

theorem Alike.foldl_restate (h : Alike a b) (ids ids' : IdSupply) (is : List Invocation) :
    Alike (is.foldl (Aggregator.restate ids) a) (is.foldl (Aggregator.restate ids') b) := by
  induction is generalizing a b with
  | nil => exact h
  | cons i is ih => exact ih (h.restate ids ids' i)

theorem Alike.calls_isEmpty (h : Alike a b) : a.calls.isEmpty = b.calls.isEmpty := by
  rw [← List.isEmpty_map (f := (·.toInvocation)), h.calls, List.isEmpty_map]

theorem Alike.finish (h : Alike a b) (ids ids' : IdSupply) :
    anonymous (finish ids a) = anonymous (Aggregator.finish ids' b) := by
  rw [Aggregator.finish, Aggregator.finish, h.phase, h.content]
  cases b.phase with
  | awaiting => rfl
  | streaming => rfl
  | complete stop =>
      cases FunctionTag.extract b.content.toList with
      | error e => rfl
      | ok p =>
          have hf := h.foldl_restate ids ids' p.2
          simp only [anonymous, Except.map, hf.calls, hf.calls_isEmpty]

end Aggregator

end ChatTurn
