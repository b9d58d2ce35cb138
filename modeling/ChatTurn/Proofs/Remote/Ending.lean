import ChatTurn.Proofs.Remote.Reassembly
import ChatTurn.Remote.Reply
import Mathlib.Data.List.TakeWhile

namespace ChatTurn.Remote

namespace Frame

/-- What the frame says, without the white space around it. A fault says nothing. -/
def text? : Frame → Option String
  | .ok data => some (String.ofList (Text.trim data))
  | .error _ => none

def isDone (f : Frame) : Bool := f.text? = some "[DONE]"

/-- The error that a frame ends the turn with: a fault of the stream, or the provider's own. -/
def error? (f : Frame) : Option Error :=
  match f with
  | .error fault => some (.streaming fault)
  | .ok _ => (f.text?.bind (Json.decode? Failure.read)).map fun x => .remote (.reported x.message)

def chunk? (f : Frame) : Option Chunk := f.text?.bind (Json.decode? Chunk.read)

def isNoise (f : Frame) : Bool := !f.isDone && f.error?.isNone && f.chunk?.isNone

def endsTurn (f : Frame) : Bool := f.isDone || f.error?.isSome

end Frame

/-- The chunks before the first frame that ends the turn. -/
def chunksSeen (frames : List Frame) : List Chunk :=
  (frames.takeWhile (!·.endsTurn)).filterMap Frame.chunk?

/-- The first frame that ends the turn is its mark, or there is none and a reason to stop was
given. -/
def Completes (frames : List Frame) : Prop :=
  match frames.find? (·.endsTurn) with
  | some f => f.isDone = true
  | none => ∃ c ∈ firstChoices (chunksSeen frames), c.finishReason.isSome = true

/-- One error, or a start, progress, and one last item: completion or an error. -/
def IsTurn (items : List StreamItem) : Prop :=
  (∃ err, items = [.error err]) ∨
    ∃ (body : List Event) (last : StreamItem), items = .ok .start :: (body.map .ok ++ [last]) ∧
      (∀ e ∈ body, e.kind = .progress) ∧
      ((∃ stop, last = .ok (.complete stop)) ∨ ∃ err, last = .error err)

def IsRemoteFault (err : Error) : Prop :=
  (∃ fault, err = .streaming fault) ∨ ∃ message, err = .remote (.reported message)

theorem IsRemoteFault.ne_protocol {err : Error} (h : IsRemoteFault err) :
    (∀ v, err ≠ .protocol v) ∧ err ≠ .canceled := by
  rcases h with ⟨fault, rfl⟩ | ⟨message, rfl⟩ <;> exact ⟨fun v => (nomatch ·), (nomatch ·)⟩

theorem isRemoteFault_of_error? {f : Frame} {err : Error} (h : f.error? = some err) :
    IsRemoteFault err := by
  cases f with
  | error fault => exact .inl ⟨fault, (Option.some.inj h).symm⟩
  | ok data =>
      obtain ⟨x, -, hx⟩ := Option.map_eq_some_iff.1 h
      exact .inr ⟨x.message, hx.symm⟩

/-- The mark of the end is no JSON. -/
theorem decode?_doneMark {α : Type} (read : Json.Reader α) : Json.decode? read "[DONE]" = none := by
  have hp : Json.parse? "[DONE]".toList = none := by rfl
  rw [Json.decode?, hp]
  rfl

theorem error?_of_isDone {f : Frame} (h : f.isDone = true) : f.error? = none := by
  have ht : f.text? = some "[DONE]" := of_decide_eq_true h
  cases f with
  | error fault => cases ht
  | ok data =>
      rw [Frame.error?, ht, Option.bind_some, decode?_doneMark]
      rfl

variable {data : List Char}

theorem isDone_iff : Frame.isDone (.ok data) = true ↔ Text.trim data = Signal.doneMark := by
  have hm : Signal.doneMark = "[DONE]".toList := rfl
  rw [Frame.isDone, decide_eq_true_iff, Frame.text?, Option.some_inj, hm]
  exact ⟨fun h => h ▸ String.toList_ofList.symm, fun h => h ▸ String.ofList_toList⟩

theorem ofData_of_isDone (h : Frame.isDone (.ok data) = true) : Signal.ofData data = .done := by
  rw [Signal.ofData, if_pos (isDone_iff.1 h)]

theorem ofData_of_error? {err : Error} (h : Frame.error? (.ok data) = some err) :
    ∃ message, err = .remote (.reported message) ∧ Signal.ofData data = .failure message := by
  have hn : ¬ Text.trim data = Signal.doneMark := fun hm => by
    rw [error?_of_isDone (isDone_iff.2 hm)] at h
    cases h
  obtain ⟨x, hx, rfl⟩ := Option.map_eq_some_iff.1 h
  rw [Frame.text?, Option.bind_some] at hx
  exact ⟨x.message, rfl, by rw [Signal.ofData, if_neg hn, hx]⟩

theorem ofData_of_error?_eq_none (hd : Frame.isDone (.ok data) = false)
    (he : Frame.error? (.ok data) = none) :
    Signal.ofData data = ((Frame.chunk? (.ok data)).map .chunk).getD .noise := by
  have hn : ¬ Text.trim data = Signal.doneMark := fun hm => by
    rw [isDone_iff.2 hm] at hd
    cases hd
  rw [Frame.error?, Option.map_eq_none_iff, Frame.text?, Option.bind_some] at he
  rw [Signal.ofData, if_neg hn, he, Frame.chunk?, Frame.text?, Option.bind_some]
  cases Json.decode? Chunk.read (String.ofList (Text.trim data)) <;> rfl

namespace Turn

variable {ids : IdSupply} {t : Turn} {f : Frame} {fs frames : List Frame}

theorem items_done (h : f.isDone = true) (frames : List Frame) :
    items ids t (f :: frames) = (t.onDone ids).2.map .ok := by
  cases f with
  | error fault => cases h
  | ok data => rw [items, ofData_of_isDone h]

theorem items_error {err : Error} (h : f.error? = some err) (frames : List Frame) :
    items ids t (f :: frames) = [.error err] := by
  cases f with
  | error fault => rw [items, ← Option.some.inj h]
  | ok data =>
      obtain ⟨message, rfl, hs⟩ := ofData_of_error? h
      rw [items, hs]

theorem items_chunk {c : Chunk} (hn : f.endsTurn = false) (h : f.chunk? = some c)
    (frames : List Frame) :
    items ids t (f :: frames) =
      (t.onChunk ids c).2.map .ok ++ items ids (t.onChunk ids c).1 frames := by
  cases f with
  | error fault => cases h
  | ok data =>
      rw [Frame.endsTurn, Bool.or_eq_false_iff, Option.isSome_eq_false_iff,
        Option.isNone_iff_eq_none] at hn
      rw [items, ofData_of_error?_eq_none hn.1 hn.2, h]
      rfl

theorem items_noise (h : f.isNoise = true) (frames : List Frame) :
    items ids t (f :: frames) = items ids t frames := by
  rw [Frame.isNoise, Bool.and_eq_true, Bool.and_eq_true, Bool.not_eq_true',
    Option.isNone_iff_eq_none, Option.isNone_iff_eq_none] at h
  obtain ⟨⟨hd, he⟩, hc⟩ := h
  cases f with
  | error fault => cases he
  | ok data =>
      rw [items, ofData_of_error?_eq_none hd he, hc]
      rfl

theorem frame_cases (f : Frame) :
    f.isDone = true ∨ (∃ err, f.error? = some err) ∨
      (f.endsTurn = false ∧ ∃ c, f.chunk? = some c) ∨ (f.endsTurn = false ∧ f.isNoise = true) := by
  rw [Frame.endsTurn, Frame.isNoise]
  cases f.isDone with
  | true => exact .inl rfl
  | false =>
      cases f.error? with
      | some err => exact .inr (.inl ⟨err, rfl⟩)
      | none =>
          cases f.chunk? with
          | some c => exact .inr (.inr (.inl ⟨rfl, c, rfl⟩))
          | none => exact .inr (.inr (.inr ⟨rfl, rfl⟩))

theorem chunk?_of_isNoise (h : f.isNoise = true) : f.chunk? = none := by
  rw [Frame.isNoise, Bool.and_eq_true, Option.isNone_iff_eq_none] at h
  exact h.2

theorem items_filter_noise (ids : IdSupply) (t : Turn) (frames : List Frame) :
    items ids t (frames.filter fun f => !f.isNoise) = items ids t frames := by
  induction frames generalizing t with
  | nil => rfl
  | cons f frames ih =>
      cases hn : f.isNoise with
      | true => rw [List.filter_cons_of_neg (by simp [hn]), ih, items_noise hn]
      | false =>
          rw [List.filter_cons_of_pos (by simp [hn])]
          rcases frame_cases f with hd | ⟨err, he⟩ | ⟨hf, c, hc⟩ | ⟨-, hf⟩
          · rw [items_done hd, items_done hd]
          · rw [items_error he, items_error he]
          · rw [items_chunk hf hc, items_chunk hf hc, ih]
          · rw [hn] at hf
            cases hf

/-- Frames that do not end the turn bring the events of their chunks. -/
theorem items_append (ids : IdSupply) (t : Turn) (h : ∀ f ∈ fs, f.endsTurn = false)
    (frames : List Frame) :
    items ids t (fs ++ frames) = (t.onAll ids (fs.filterMap Frame.chunk?)).2.map .ok ++
      items ids (t.onAll ids (fs.filterMap Frame.chunk?)).1 frames := by
  induction fs generalizing t with
  | nil => rfl
  | cons f fs ih =>
      have hf := h f List.mem_cons_self
      have hfs := fun t => ih t fun g hg => h g (List.mem_cons_of_mem f hg)
      rw [List.cons_append]
      rcases frame_cases f with hd | ⟨err, he⟩ | ⟨-, c, hc⟩ | ⟨-, hn⟩
      · simp [Frame.endsTurn, hd] at hf
      · simp [Frame.endsTurn, he] at hf
      · rw [items_chunk hf hc, hfs, List.filterMap_cons_some hc, onAll, List.map_append,
          List.append_assoc]
      · rw [items_noise hn, hfs, List.filterMap_cons_none (chunk?_of_isNoise hn)]

theorem onFragments_kind (t : Turn) (fs : List CallFragment) :
    ∀ e ∈ (t.onFragments fs).2, e.kind = .progress := by
  induction fs generalizing t with
  | nil => exact List.forall_mem_nil _
  | cons f fs ih =>
      rw [onFragments_cons]
      exact List.forall_mem_cons.2 ⟨rfl, ih _⟩

theorem onStop_kind (ids : IdSupply) (t : Turn) (stop : StopReason) :
    ∀ e ∈ (t.onStop ids stop).2, e.kind = .progress := by
  rw [onStop]
  split
  · exact List.forall_mem_nil _
  · exact resolutions_kind stop 0 _

theorem onChoices_kind (ids : IdSupply) (t : Turn) (cs : List Choice) :
    ∀ e ∈ (t.onChoices ids cs).2, e.kind = .progress := by
  induction cs generalizing t with
  | nil => exact List.forall_mem_nil _
  | cons c cs ih =>
      rw [onChoices_cons]
      refine List.forall_mem_append.2 ⟨?_, ih _⟩
      have hopen : ∀ e ∈ onContent c.delta.content ++ (t.onFragments (c.delta.calls.getD [])).2,
          e.kind = .progress :=
        List.forall_mem_append.2 ⟨fun e he =>
          Event.kind_of_isOpen (Event.isOpen_of_isText (onContent_isText _ e he)),
          onFragments_kind t _⟩
      rw [onChoice]
      refine List.forall_mem_append.2 ⟨hopen, ?_⟩
      cases c.finishReason with
      | none => exact List.forall_mem_nil _
      | some reason => exact onStop_kind ids _ _

theorem onFragments_stop (t : Turn) (fs : List CallFragment) :
    (t.onFragments fs).1.stop = t.stop := by
  induction fs generalizing t with
  | nil => rfl
  | cons f fs ih =>
      rw [onFragments_cons, ih]
      rfl

theorem onStop_stop (ids : IdSupply) (t : Turn) (stop : StopReason) :
    (t.onStop ids stop).1.stop = t.stop.or (some stop) := by
  rw [onStop]
  cases h : t.stop with
  | none => rfl
  | some s => exact h

theorem onChoice_stop (ids : IdSupply) (t : Turn) (c : Choice) :
    (t.onChoice ids c).1.stop = t.stop.or (c.finishReason.map stopReason) := by
  have hs := onFragments_stop t (c.delta.calls.getD [])
  rw [onChoice, ← hs]
  cases c.finishReason with
  | none => exact Option.or_none.symm
  | some reason => exact onStop_stop ids _ _

theorem onChoices_stop (ids : IdSupply) (t : Turn) (cs : List Choice) :
    (t.onChoices ids cs).1.stop =
      t.stop.or ((cs.findSome? (·.finishReason)).map stopReason) := by
  induction cs generalizing t with
  | nil => exact Option.or_none.symm
  | cons c cs ih =>
      rw [onChoices_cons, ih, onChoice_stop, List.findSome?_cons, Option.or_assoc]
      cases c.finishReason <;> rfl

theorem onDone_of_live (h : t.Live) (ids : IdSupply) :
    ∃ body, (t.onDone ids).2 = body ++ [.complete (t.stop.getD .endOfTurn)] ∧
      ∀ e ∈ body, e.kind = .progress := by
  refine ⟨(t.onStop ids .endOfTurn).2, ?_, onStop_kind ids t .endOfTurn⟩
  rw [h.onDone_eq, closing, onStop_stop]
  cases t.stop <;> rfl

theorem onAll_opened (ids : IdSupply) (chunks : List Chunk) :
    (∀ e ∈ (opened.onAll ids chunks).2, e.kind = .progress) ∧
      (opened.onAll ids chunks).1.Live ∧
      (opened.onAll ids chunks).1.stop =
        ((firstChoices chunks).findSome? (·.finishReason)).map stopReason := by
  have hl : opened.Live := ⟨rfl, rfl⟩
  rw [hl.onAll_eq]
  exact ⟨onChoices_kind ids _ _, hl.onChoices _, onChoices_stop ids _ _⟩

theorem isSome_stop_iff {chunks : List Chunk} :
    (((firstChoices chunks).findSome? (·.finishReason)).map stopReason).isSome = true ↔
      ∃ c ∈ firstChoices chunks, c.finishReason.isSome = true := by
  rw [Option.isSome_map, List.findSome?_isSome_iff]

theorem items_opened (ids : IdSupply) (frames : List Frame) :
    ∃ (body : List Event) (last : StreamItem),
      items ids opened frames = body.map .ok ++ [last] ∧ (∀ e ∈ body, e.kind = .progress) ∧
      ((Completes frames ∧ last = .ok (.complete (stopOf (firstChoices (chunksSeen frames))))) ∨
        ¬ Completes frames ∧ ∃ err, IsRemoteFault err ∧ last = .error err) := by
  obtain ⟨hk, hl, hs⟩ := onAll_opened ids (chunksSeen frames)
  obtain ⟨closing, hc, hck⟩ := onDone_of_live hl ids
  have hseen : ∀ f ∈ frames.takeWhile (!·.endsTurn), f.endsTurn = false := fun f hf => by
    simpa using List.mem_takeWhile_imp hf
  have hitems := items_append ids opened hseen (frames.dropWhile (!·.endsTurn))
  rw [List.takeWhile_append_dropWhile, ← chunksSeen] at hitems
  have hfirst := List.find?_eq_head?_dropWhile_not Frame.endsTurn frames
  rw [hs] at hc
  have hcompletes : (((opened.onAll ids (chunksSeen frames)).2.map .ok : List StreamItem) ++
      ((opened.onAll ids (chunksSeen frames)).1.onDone ids).2.map .ok) =
      ((opened.onAll ids (chunksSeen frames)).2 ++ closing).map .ok ++
        [.ok (.complete (stopOf (firstChoices (chunksSeen frames))))] := by
    rw [hc, List.map_append, List.map_append, List.append_assoc]
    rfl
  have hkinds := List.forall_mem_append.2 ⟨hk, hck⟩
  rw [hitems, Completes, hfirst]
  cases hd : frames.dropWhile (!·.endsTurn) with
  | nil =>
      rw [items, onEnd, hs]
      by_cases hf : ∃ c ∈ firstChoices (chunksSeen frames), c.finishReason.isSome = true
      · rw [if_pos (isSome_stop_iff.2 hf)]
        exact ⟨_, _, hcompletes, hkinds, .inl ⟨hf, rfl⟩⟩
      · rw [if_neg fun h => hf (isSome_stop_iff.1 h)]
        exact ⟨_, _, rfl, hk, .inr ⟨hf, _, .inl ⟨_, rfl⟩, rfl⟩⟩
  | cons f rest =>
      rw [hd] at hfirst
      rcases frame_cases f with hdone | ⟨err, he⟩ | ⟨hn, -⟩ | ⟨hn, -⟩
      · rw [items_done hdone]
        exact ⟨_, _, hcompletes, hkinds, .inl ⟨hdone, rfl⟩⟩
      · rw [items_error he]
        refine ⟨_, _, rfl, hk, .inr ⟨?_, err, isRemoteFault_of_error? he, rfl⟩⟩
        intro hdone
        rw [error?_of_isDone hdone] at he
        cases he
      · rw [List.find?_some hfirst] at hn
        cases hn
      · rw [List.find?_some hfirst] at hn
        cases hn

/-- A new turn starts with the first chunk or with its end, unless an error comes first. -/
theorem items_new (ids : IdSupply) (frames : List Frame) :
    (∃ err, IsRemoteFault err ∧ items ids {} frames = [.error err] ∧
      items ids opened frames = [.error err]) ∨
      items ids {} frames = .ok .start :: items ids opened frames := by
  induction frames with
  | nil => exact .inl ⟨_, .inl ⟨_, rfl⟩, rfl, rfl⟩
  | cons f frames ih =>
      rcases frame_cases f with hd | ⟨err, he⟩ | ⟨hf, c, hc⟩ | ⟨-, hn⟩
      · refine .inr ?_
        rw [items_done hd, items_done hd]
        rfl
      · exact .inl ⟨err, isRemoteFault_of_error? he, items_error he _, items_error he _⟩
      · refine .inr ?_
        rw [items_chunk hf hc, items_chunk hf hc]
        rfl
      · rw [items_noise hn, items_noise hn]
        exact ih

theorem items_eq (ids : IdSupply) (frames : List Frame) :
    (¬ Completes frames ∧ ∃ err, IsRemoteFault err ∧ items ids {} frames = [.error err]) ∨
    ∃ body : List Event, (∀ e ∈ body, e.kind = .progress) ∧
      ((Completes frames ∧ items ids {} frames = .ok .start ::
          (body.map .ok ++ [.ok (.complete (stopOf (firstChoices (chunksSeen frames))))])) ∨
        ¬ Completes frames ∧ ∃ err, IsRemoteFault err ∧
          items ids {} frames = .ok .start :: (body.map .ok ++ [.error err])) := by
  obtain ⟨body, last, heq, hk, hlast⟩ := items_opened ids frames
  rcases items_new ids frames with ⟨err, herr, hnew, hopened⟩ | hnew
  · refine .inl ⟨fun hc => ?_, err, herr, hnew⟩
    rcases hlast with ⟨-, rfl⟩ | ⟨hn, -⟩
    · have hm := List.mem_append_right (body.map .ok) (List.mem_singleton_self
        (Except.ok (Event.complete (stopOf (firstChoices (chunksSeen frames)))) : StreamItem))
      rw [← heq, hopened] at hm
      cases List.mem_singleton.1 hm
    · exact hn hc
  · refine .inr ⟨body, hk, ?_⟩
    rw [hnew, heq]
    rcases hlast with ⟨hc, rfl⟩ | ⟨hn, err, herr, rfl⟩
    · exact .inl ⟨hc, rfl⟩
    · exact .inr ⟨hn, err, herr, rfl⟩

theorem eq_last_of_kind {body : List Event} (h : ∀ e ∈ body, e.kind = .progress) {e : Event}
    {last : StreamItem} (he : .ok e ∈ .ok .start :: (body.map .ok ++ [last]))
    (hc : e.kind = .complete) : .ok e = last := by
  rcases List.mem_cons.1 he with he | he
  · cases he
    cases hc
  · rcases List.mem_append.1 he with he | he
    · obtain ⟨d, hd, hde⟩ := List.mem_map.1 he
      cases hde
      rw [h e hd] at hc
      cases hc
    · exact List.mem_singleton.1 he

theorem stream_of_complete (agg : IdSupply) {body : List Event}
    (h : ∀ e ∈ body, e.kind = .progress) (stop : StopReason) :
    (∃ m, aggregateStream agg (.ok .start :: (body.map .ok ++ [.ok (.complete stop)])) = .ok m) ∨
      ∃ c, aggregateStream agg (.ok .start :: (body.map .ok ++ [.ok (.complete stop)])) =
        .error (.malformedCall c) := by
  have hmap : aggregateStream agg (.ok .start :: (body.map .ok ++ [.ok (.complete stop)])) =
      aggregate agg (.start :: (body ++ [.complete stop])) := by
    rw [← Aggregator.aggregateStream_map_ok, List.map_cons, List.map_append, List.map_singleton]
  rw [hmap]
  rcases Aggregator.aggregate_turn h stop with ⟨m, -, hm⟩ | hc
  · exact .inl ⟨m, hm⟩
  · exact .inr hc

theorem stream_of_error (agg : IdSupply) {body : List Event} (h : ∀ e ∈ body, e.kind = .progress)
    (err : Error) :
    (∃ c, aggregateStream agg (.ok .start :: (body.map .ok ++ [.error err])) =
      .error (.malformedCall c)) ∨
      aggregateStream agg (.ok .start :: (body.map .ok ++ [.error err])) = .error err := by
  have hstart : Aggregator.push agg {} .start = ({ phase := .streaming }, .ok ()) :=
    Aggregator.push_start rfl
  rw [aggregateStream, Aggregator.drain_of_push hstart]
  obtain ⟨c, hc⟩ | ⟨b, -, hb⟩ : _ ∨ ∃ b : Aggregator, _ ∧
      ∀ items, Aggregator.drain agg { phase := .streaming } (body.map .ok ++ items) = _ :=
    Aggregator.drain_progress rfl h
  · exact .inl ⟨c, hc _⟩
  · exact .inr (hb _)

theorem stream_items (ids agg : IdSupply) (frames : List Frame) :
    (∀ v, aggregateStream agg (items ids {} frames) ≠ .error (.protocol v)) ∧
      aggregateStream agg (items ids {} frames) ≠ .error .canceled := by
  rcases items_eq ids frames with ⟨-, err, herr, heq⟩ | ⟨body, hk, ⟨-, heq⟩ | ⟨-, err, herr, heq⟩⟩
  · have hs : aggregateStream agg (items ids {} frames) = .error err := by
      rw [heq]
      rfl
    rw [hs]
    exact ⟨fun v h => (IsRemoteFault.ne_protocol herr).1 v (Except.error.inj h),
      fun h => (IsRemoteFault.ne_protocol herr).2 (Except.error.inj h)⟩
  · rw [heq]
    rcases stream_of_complete agg hk (stopOf (firstChoices (chunksSeen frames))) with
      ⟨m, hm⟩ | ⟨c, hc⟩
    · rw [hm]
      exact ⟨fun v => (nomatch ·), (nomatch ·)⟩
    · rw [hc]
      exact ⟨fun v => (nomatch ·), (nomatch ·)⟩
  · rw [heq]
    rcases stream_of_error agg hk err with ⟨c, hc⟩ | hs
    · rw [hc]
      exact ⟨fun v => (nomatch ·), (nomatch ·)⟩
    · rw [hs]
      exact ⟨fun v h => (IsRemoteFault.ne_protocol herr).1 v (Except.error.inj h),
        fun h => (IsRemoteFault.ne_protocol herr).2 (Except.error.inj h)⟩

/-- Every turn ends in one last item. It completes if its mark comes before any error, or the body
ends without either after a reason to stop was given; the first such reason is that of the
completion. Noise counts for nothing, and a turn breaks the order of events neither way. -/
theorem items_end (ids agg : IdSupply) (frames : List Frame) :
    IsTurn (items ids {} frames) ∧
    ((∃ e, .ok e ∈ items ids {} frames ∧ e.kind = .complete) ↔ Completes frames) ∧
    (∀ e, .ok e ∈ items ids {} frames → e.kind = .complete →
      e = .complete (stopOf (firstChoices (chunksSeen frames)))) ∧
    items ids {} (frames.filter fun f => !f.isNoise) = items ids {} frames ∧
    (∀ v, aggregateStream agg (items ids {} frames) ≠ .error (.protocol v)) ∧
    aggregateStream agg (items ids {} frames) ≠ .error .canceled := by
  have hnoise := items_filter_noise ids {} frames
  have hstream := stream_items ids agg frames
  rcases items_eq ids frames with ⟨hn, err, -, heq⟩ | ⟨body, hk, ⟨hc, heq⟩ | ⟨hn, err, -, heq⟩⟩
  · refine ⟨.inl ⟨err, heq⟩, ⟨?_, fun hc => absurd hc hn⟩, ?_, hnoise, hstream⟩
    · rintro ⟨e, he, -⟩
      rw [heq] at he
      cases List.mem_singleton.1 he
    · intro e he
      rw [heq] at he
      cases List.mem_singleton.1 he
  · refine ⟨.inr ⟨body, _, heq, hk, .inl ⟨_, rfl⟩⟩, ⟨fun _ => hc, fun _ => ?_⟩, ?_, hnoise, hstream⟩
    · refine ⟨.complete (stopOf (firstChoices (chunksSeen frames))), ?_, rfl⟩
      rw [heq]
      exact List.mem_cons_of_mem _ (List.mem_append_right _ List.mem_cons_self)
    · intro e he hek
      rw [heq] at he
      exact Except.ok.inj (eq_last_of_kind hk he hek)
  · refine ⟨.inr ⟨body, _, heq, hk, .inr ⟨err, rfl⟩⟩, ⟨?_, fun hc => absurd hc hn⟩, ?_, hnoise,
      hstream⟩
    · rintro ⟨e, he, hek⟩
      rw [heq] at he
      cases eq_last_of_kind hk he hek
    · intro e he hek
      rw [heq] at he
      cases eq_last_of_kind hk he hek

end Turn

end ChatTurn.Remote
