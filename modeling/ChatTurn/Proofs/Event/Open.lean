import ChatTurn.Event

namespace ChatTurn.Event

def status? (e : Event) : Option ParseStatus :=
  match e.delta with
  | .text _ => none
  | .toolCall d => some d.status

def isText (e : Event) : Bool :=
  match e with
  | ⟨.progress, .text _, none⟩ => true
  | _ => false

/-- Prose or a fragment of a call, without a reason to stop. -/
def isOpen (e : Event) : Bool :=
  match e with
  | ⟨.progress, .text _, none⟩ => true
  | ⟨.progress, .toolCall ⟨.text _, .started⟩, none⟩ => true
  | ⟨.progress, .toolCall ⟨.text _, .inProgress⟩, none⟩ => true
  | _ => false

def fragment? (e : Event) : Option String :=
  match e.delta with
  | .toolCall ⟨.text s, _⟩ => some s
  | _ => none

def delivered? (e : Event) : Option ToolCall :=
  match e.delta with
  | .toolCall ⟨.call c, .success⟩ => some c
  | _ => none

def AllResolved (es : List Event) : Prop := ∀ e ∈ es, ∃ c stop, e = .resolved c stop

def prose (es : List Event) : List Char := es.flatMap fun e => (e.delta.text?.getD "").toList

def fragments (es : List Event) : List Char := es.flatMap fun e => (e.fragment?.getD "").toList

def delivered (es : List Event) : List ToolCall := es.filterMap delivered?

variable {e : Event} {es fs : List Event}

theorem isText_iff : e.isText = true ↔ ∃ s, e = .text s := by
  constructor
  · intro h
    match e, h with
    | ⟨.progress, .text s, none⟩, _ => exact ⟨s, rfl⟩
  · rintro ⟨s, rfl⟩
    rfl

theorem isText_of_mem_ite {p : Prop} [Decidable p] {s : String}
    (h : e ∈ if p then [] else [text s]) : e.isText = true := by
  split at h
  · cases h
  · exact isText_iff.2 ⟨s, List.mem_singleton.1 h⟩

theorem isOpen_iff : e.isOpen = true ↔
    (∃ s, e = .text s) ∨ (∃ s, e = .fragment s .started) ∨ ∃ s, e = .fragment s .inProgress := by
  constructor
  · intro h
    match e, h with
    | ⟨.progress, .text s, none⟩, _ => exact .inl ⟨s, rfl⟩
    | ⟨.progress, .toolCall ⟨.text s, .started⟩, none⟩, _ => exact .inr (.inl ⟨s, rfl⟩)
    | ⟨.progress, .toolCall ⟨.text s, .inProgress⟩, none⟩, _ => exact .inr (.inr ⟨s, rfl⟩)
  · rintro (⟨s, rfl⟩ | ⟨s, rfl⟩ | ⟨s, rfl⟩) <;> rfl

theorem kind_of_isOpen (h : e.isOpen = true) : e.kind = .progress := by
  rcases isOpen_iff.1 h with ⟨s, rfl⟩ | ⟨s, rfl⟩ | ⟨s, rfl⟩ <;> rfl

theorem isOpen_of_isText (h : e.isText = true) : e.isOpen = true := by
  obtain ⟨s, rfl⟩ := isText_iff.1 h
  rfl

@[simp] theorem prose_nil : prose [] = [] := rfl

@[simp] theorem prose_append : prose (es ++ fs) = prose es ++ prose fs := List.flatMap_append

@[simp] theorem prose_text (s : String) : prose (.text s :: es) = s.toList ++ prose es := rfl

@[simp] theorem prose_fragment (s : String) (st : ParseStatus) :
    prose (.fragment s st :: es) = prose es := rfl

@[simp] theorem prose_resolved (c : ToolCall) (stop : Option StopReason) :
    prose (.resolved c stop :: es) = prose es := rfl

@[simp] theorem prose_failure (stop : Option StopReason) :
    prose (.failure stop :: es) = prose es := rfl

@[simp] theorem prose_complete (stop : StopReason) : prose (.complete stop :: es) = prose es := rfl

@[simp] theorem prose_start : prose (.start :: es) = prose es := rfl

@[simp] theorem fragments_nil : fragments [] = [] := rfl

@[simp] theorem fragments_append : fragments (es ++ fs) = fragments es ++ fragments fs :=
  List.flatMap_append

@[simp] theorem fragments_text (s : String) : fragments (.text s :: es) = fragments es := rfl

@[simp] theorem fragments_fragment (s : String) (st : ParseStatus) :
    fragments (.fragment s st :: es) = s.toList ++ fragments es := rfl

@[simp] theorem delivered_nil : delivered [] = [] := rfl

@[simp] theorem delivered_append : delivered (es ++ fs) = delivered es ++ delivered fs :=
  List.filterMap_append

@[simp] theorem delivered_resolved (c : ToolCall) (stop : Option StopReason) :
    delivered (.resolved c stop :: es) = c :: delivered es := rfl

@[simp] theorem delivered_start : delivered (.start :: es) = delivered es := rfl

@[simp] theorem delivered_complete (stop : StopReason) :
    delivered (.complete stop :: es) = delivered es := rfl

theorem delivered_of_open (h : ∀ e ∈ es, e.isOpen = true) : delivered es = [] := by
  rw [delivered, List.filterMap_eq_nil_iff]
  intro e he
  rcases isOpen_iff.1 (h e he) with ⟨s, rfl⟩ | ⟨s, rfl⟩ | ⟨s, rfl⟩ <;> rfl

theorem prose_of_resolved (h : AllResolved es) : prose es = [] := by
  rw [prose, List.flatMap_eq_nil_iff]
  intro e he
  obtain ⟨c, stop, rfl⟩ := h e he
  rfl

theorem fragments_of_text (h : ∀ e ∈ es, e.isText = true) : fragments es = [] := by
  rw [fragments, List.flatMap_eq_nil_iff]
  intro e he
  obtain ⟨s, rfl⟩ := isText_iff.1 (h e he)
  rfl

end ChatTurn.Event
