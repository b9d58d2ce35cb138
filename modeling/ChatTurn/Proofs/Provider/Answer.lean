import ChatTurn.Proofs.Provider.Sharing
import ChatTurn.Proofs.Remote.Renaming
import ChatTurn.Proofs.Scripted.Renaming
import ChatTurn.Provider.Configured

namespace ChatTurn

variable {σ : Type}

namespace Aggregator

def pushAll (ids : IdSupply) (a : Aggregator) : List Event → Except Error Aggregator
  | [] => .ok a
  | e :: es =>
    match a.push ids e with
    | (_, .error err) => .error err
    | (a, .ok ()) => pushAll ids a es

end Aggregator

namespace Chunk

def untilError : List (Except Error Chunk) → List Event × Option Error
  | [] => ([], none)
  | .error err :: _ => ([], some err)
  | .ok (.event e) :: rest => (e :: (untilError rest).1, (untilError rest).2)
  | .ok (.response _) :: rest => untilError rest

def gather (ids : IdSupply) (chunks : List (Except Error Chunk)) : Except Error Completion :=
  match Aggregator.pushAll ids {} (untilError chunks).1 with
  | .error err => .error err
  | .ok a =>
    match (untilError chunks).2 with
    | some err => .error err
    | none => a.finish ids

theorem gather_events (ids : IdSupply) (items : List StreamItem) :
    gather ids (items.map (·.map Chunk.event)) = aggregateStream ids items := by
  rw [gather, aggregateStream]
  generalize ({} : Aggregator) = a
  induction items generalizing a with
  | nil => rfl
  | cons item items ih =>
      cases item with
      | error err => rfl
      | ok e =>
          simp only [List.map_cons, Except.map, untilError, Aggregator.pushAll, Aggregator.drain]
          cases hp : a.push ids e with
          | mk b r =>
              cases r with
              | error err => rfl
              | ok => exact ih b

end Chunk

/-- A provider yields the same whether a request streams or not, and under any new ids, which are
none of its `own`. -/
structure Provider.IsSteady (p : Provider σ) (own : Request → σ → String → Prop) : Prop where
  stream : ∀ ids q stream, p.turn ids (q.streaming stream) = p.turn ids q
  ids : ∀ q w, IsNatural (own q w) fun ids => (p.turn ids q w).1

theorem Scripted.isSteady (p : Scripted) :
    (p.provider : Provider σ).IsSteady fun _ _ _ => False :=
  ⟨fun _ _ _ => rfl, fun q _ => p.isNatural q⟩

namespace Remote.Service

def Brings (s : Service) (send : Transport σ) (q : ChatTurn.Request) (w : σ) (id : String) : Prop :=
  ∃ post reply, s.post? q = some post ∧ (send post w).1 = some reply ∧
    Bears reply.stripped.frames id

theorem post?_streaming (s : Service) (q : ChatTurn.Request) (stream : Bool) :
    s.post? (q.streaming stream) = s.post? q := by
  have hbody : Request.ofRequest (q.streaming stream) (s.modelName q.model) =
      Request.ofRequest q (s.modelName q.model) := rfl
  rw [post?, post?, ← hbody]
  rfl

theorem isSteady (s : Service) (send : Transport σ) :
    (s.provider send).IsSteady (s.Brings send) := by
  refine ⟨fun ids q stream => ?_, fun q w ids ids' ρ hρ hown => ?_⟩
  · dsimp only [provider]
    rw [turn, turn, post?_streaming]
  · dsimp only [provider]
    rw [turn, turn]
    cases hp : s.post? q with
    | none => rfl
    | some post =>
        simp only [bind, StateT.bind]
        cases hr : send post w with
        | mk reply? w' =>
            cases reply? with
            | none => rfl
            | some reply =>
                exact reply.isNatural ids ids' ρ hρ fun id hb =>
                  hown id ⟨post, reply, hp, congrArg Prod.fst hr, hb⟩

end Remote.Service

theorem Handle.turn_of_ready {h : Handle σ} {q : Request} (hs : h.state = .ready)
    (hv : q.validate = .ok ()) (ids : IdSupply) : h.turn ids q = h.provider.turn ids q := by
  rw [turn, accept_eq_ok_iff.2 ⟨hs, hv⟩]

namespace Registry

variable {r : Registry σ} {q : Request} {route : Route} {h : Handle σ}

theorem dispatch_of_resolve (hroute : r.resolve q.model = .ok route)
    (hh : Ordered.get? route.provider r.handles = some h) :
    r.dispatch q = .ok (h, { q with model := route.model }) := by
  simp only [dispatch, hroute, hh]

theorem complete_of_turn {ids : IdSupply} {w w' : σ} {result : Except Error (List StreamItem)}
    (hd : r.dispatch q = .ok (h, { q with model := route.model }))
    (ht : h.turn ids.even { q with model := route.model } w = (result, w')) :
    r.complete ids q w = (Handle.completion ids result, w') := by
  rw [complete, hd]
  simp only [Handle.complete, bind, StateT.bind, ht]
  rfl

theorem chat_of_turn {ids : IdSupply} {w w' : σ} {result : Except Error (List StreamItem)}
    (hd : r.dispatch q = .ok (h, { q with model := route.model }))
    (ht : h.turn ids.even { q with model := route.model } w = (result, w')) :
    r.chat ids q w = (Handle.chunks ids q result, w') := by
  rw [chat, hd]
  simp only [Handle.chat, bind, StateT.bind, ht]
  rfl

/-- What the ways to ask for the completion of `q` have in common, where `turn` tells what the
provider yields. -/
structure Agreement (r : Registry σ) (q : Request) (route : Route)
    (turn : IdSupply → StateM σ (Except Error (List StreamItem))) (own : σ → String → Prop) :
    Prop where
  fails : ∀ ids w e w', turn ids.even w = (.error e, w') →
    r.complete ids q w = (.error e, w') ∧
      ∀ stream, r.chat ids (q.streaming stream) w = (.error e, w')
  agrees : ∀ ids w items w', turn ids.even w = (.ok items, w') →
    ∃ outcome : Except Error Completion,
      r.complete ids q w = (outcome, w') ∧
      r.chat ids (q.streaming false) w = (.ok [outcome.map .response], w') ∧
      r.chat ids (q.streaming true) w = (.ok (items.map (·.map .event)), w') ∧
      Chunk.gather ids.odd (items.map (·.map .event)) = outcome
  agrees_but_ids : ∀ ids ids' agg w items items', (turn ids.even w).1 = .ok items →
    (turn ids'.even w).1 = .ok items' → ids.IsNew (own w) → ids'.IsNew (own w) →
    (∀ n, ¬ own w (agg n)) → (∀ n m, ids'.even n ≠ agg m) → ∃ single : Except Error Completion,
      (r.chat ids' (q.streaming false) w).1 = .ok [single.map .response] ∧
      anonymous single = anonymous (r.complete ids q w).1 ∧
      (r.chat ids' (q.streaming true) w).1 = .ok (items'.map (·.map .event)) ∧
      anonymous (Chunk.gather agg (items'.map (·.map .event))) =
        anonymous (r.complete ids q w).1
  addressed : ∀ model, r.resolve model = .ok route → ∀ ids stream,
    r.complete ids { q with model } = r.complete ids q ∧
      r.chat ids ({ q with model }.streaming stream) = r.chat ids (q.streaming stream)

theorem agreement_of_ready (hroute : r.resolve q.model = .ok route)
    (hh : Ordered.get? route.provider r.handles = some h) (hready : h.state = .ready)
    (hvalid : { q with model := route.model }.validate = .ok ())
    {own : Request → σ → String → Prop} (hsteady : h.provider.IsSteady own) :
    Agreement r q route (fun ids => h.provider.turn ids { q with model := route.model })
      (own { q with model := route.model }) := by
  have hcomplete : ∀ {ids w result w'},
      h.provider.turn ids.even { q with model := route.model } w = (result, w') →
        r.complete ids q w = (Handle.completion ids result, w') := fun ht =>
    complete_of_turn (dispatch_of_resolve hroute hh)
      ((congrFun (Handle.turn_of_ready hready hvalid _) _).trans ht)
  -- Whether a request streams is not part of what is validated.
  have hvalid' : ∀ stream, { q.streaming stream with model := route.model }.validate = .ok () :=
    fun _ => hvalid
  have hchat : ∀ {ids stream w result w'},
      h.provider.turn ids.even { q with model := route.model } w = (result, w') →
        r.chat ids (q.streaming stream) w =
          (Handle.chunks ids (q.streaming stream) result, w') := fun {ids stream w _ _} ht =>
    chat_of_turn (dispatch_of_resolve hroute hh)
      ((congrFun (Handle.turn_of_ready hready (hvalid' stream) _) _).trans
        ((congrFun (hsteady.stream ids.even { q with model := route.model } stream) w).trans ht))
  have hdispatch : ∀ model stream, r.resolve model = .ok route →
      r.dispatch ({ q with model }.streaming stream) = r.dispatch (q.streaming stream) :=
    fun model stream hmodel =>
      (dispatch_of_resolve (q := { q with model }.streaming stream) hmodel hh).trans
        (dispatch_of_resolve (q := q.streaming stream) hroute hh).symm
  refine ⟨fun ids w e w' ht => ⟨hcomplete ht, fun stream => hchat ht⟩, fun ids w items w' ht => ?_,
    fun ids ids' agg w items items' ht ht' hids hids' hown hagg => ?_,
    fun model hmodel ids stream => ⟨?_, ?_⟩⟩
  · exact ⟨_, hcomplete ht, hchat ht, hchat ht, Chunk.gather_events _ _⟩
  · have hnatural := hsteady.ids { q with model := route.model } w
    have hsame := hnatural.sameButIds ht ht' hids.even hids'.even
    have hfresh : IsFresh ids.odd items :=
      hnatural.isFresh ht (fun n => hids.not_own _) hids.even_ne_odd
    have hfresh' : IsFresh ids'.odd items' :=
      hnatural.isFresh ht' (fun n => hids'.not_own _) hids'.even_ne_odd
    refine ⟨_, congrArg Prod.fst (hchat (Prod.ext ht' rfl)), ?_,
      congrArg Prod.fst (hchat (Prod.ext ht' rfl)), ?_⟩
    · rw [hcomplete (Prod.ext ht rfl)]
      exact (anonymous_aggregateStream hsame hfresh hfresh').symm
    · rw [hcomplete (Prod.ext ht rfl), Chunk.gather_events]
      exact (anonymous_aggregateStream hsame hfresh (hnatural.isFresh ht' hown hagg)).symm
  · have hd : r.dispatch { q with model } = r.dispatch q := hdispatch model q.stream hmodel
    rw [complete, complete, hd]
  · rw [chat, chat, hdispatch model stream hmodel]

/-- Whichever way a request asks, the answer is the same, at every provider that yields the same for
one request; both kinds of provider do. -/
theorem answers_agree :
    (∀ p : Scripted, (p.provider : Provider σ).IsSteady fun _ _ _ => False) ∧
    (∀ (s : Remote.Service) (send : Remote.Transport σ),
      (s.provider send).IsSteady (s.Brings send)) ∧
    ∀ (r : Registry σ) (q : Request) (route : Route) (h : Handle σ)
      (own : Request → σ → String → Prop), r.resolve q.model = .ok route →
      Ordered.get? route.provider r.handles = some h → h.state = .ready →
      { q with model := route.model }.validate = .ok () → h.provider.IsSteady own →
      Agreement r q route (fun ids => h.provider.turn ids { q with model := route.model })
        (own { q with model := route.model }) :=
  ⟨Scripted.isSteady, Remote.Service.isSteady, fun _ _ _ _ _ hroute hh hready hvalid hsteady =>
    agreement_of_ready hroute hh hready hvalid hsteady⟩

/-- A script, asked by the qualified name of its model. -/
theorem answers_agree_qualified : ∃ (p : Scripted) (r : Registry Unit) (q : Request),
    r.resolve q.model = .ok ⟨"local", "tiny"⟩ ∧ r.resolve "tiny" = .ok ⟨"local", "tiny"⟩ ∧
    q.model ≠ "tiny" ∧ Ordered.get? "local" r.handles = some ⟨p.provider, .ready⟩ ∧
    { q with model := "tiny" }.validate = .ok () ∧
    Agreement r q ⟨"local", "tiny"⟩ (fun ids => p.provider.turn ids { q with model := "tiny" })
      fun _ _ => False := by
  let p : Scripted := ⟨"local", [], some "Hello", 8, 1⟩
  let r : Registry Unit := ⟨[("local", ⟨p.provider, .ready⟩)], [("tiny", "local")]⟩
  have hroute : r.resolve "local/tiny" = .ok ⟨"local", "tiny"⟩ := by decide
  have hbare : r.resolve "tiny" = .ok ⟨"local", "tiny"⟩ := by decide
  have hvalid : (Request.new "tiny" [.user (.text "Hi")]).validate = .ok () := by decide
  exact ⟨p, r, .new "local/tiny" [.user (.text "Hi")], hroute, hbare, by decide, rfl, hvalid,
    answers_agree.2.2 r _ _ ⟨p.provider, .ready⟩ _ hroute rfl rfl hvalid p.isSteady⟩

end Registry

end ChatTurn
