import SpriteStage.Proofs.Snapshot.Messages
import SpriteStage.Proofs.Store.Chronicle
import SpriteStage.Proofs.Walk.Replies

/-!
# Bubbles that stay

A block that speaks puts up a bubble, waits, and takes it down again. Nothing takes it down if it
does not come to that: if a listener fails when the bubble is put up, or if the wait is interrupted,
the run breaks off and the bubble stays (`Reply.BrokenOff`). So when nobody else has to do with
messages, a run leaves nobody with a message just in case it was not broken off in this way
(`Interpreter.silent_after_run`).

What a run has done to messages can be read off what it was answered (`lastMessage`), and every
snapshot follows it, whatever fails (`Attempt.Made.ends`). That all that is put up is taken down is
a matter of each block that speaks, and carries over to all that is made of blocks
(`Attempt.Tidy`).
-/

namespace SpriteStage

variable {σ ι τ α β : Type} [DecidableEq ι] {S : Surroundings σ ι} {answer : Company σ ι τ}

/-! ### What others do -/

omit [DecidableEq ι] in
theorem Store.Course.exists_afterAll {P : Action → Prop} {s s' : Store ι} {ts : List Transition}
    (h : Course P s ts s') :
    ∃ actions : List Action, (∀ a ∈ actions, P a) ∧ s'.state = s.state.afterAll actions := by
  induction h with
  | nil hsame => exact ⟨[], nofun, hsame.state⟩
  | @cons s s' action next ts ha hnext _ ih =>
    obtain ⟨actions, hactions, hstate⟩ := ih
    refine ⟨action :: actions, List.forall_mem_cons.mpr ⟨ha, hactions⟩, hstate.trans ?_⟩
    have hafter : s.state.after action = next := by rw [Snapshot.after, hnext]
    exact congrArg (Snapshot.afterAll · actions) hafter.symm

/-- Whatever comes of a dispatch, the action is carried out first, and then there are only actions
of the kind that listeners dispatch. -/
theorem Audience.exists_dispatch_state {P : Action → Prop} {A : Audience σ ι} (hA : A.Within P)
    (action : Action) (h : Hall σ ι) :
    ∃ actions : List Action, (∀ a ∈ actions, P a) ∧
      (A.dispatch action h).1.store.state = (h.store.state.after action).afterAll actions := by
  have hstay {s : Snapshot} (hs : s = h.store.state.after action) :
      ∃ actions : List Action, (∀ a ∈ actions, P a) ∧
        s = (h.store.state.after action).afterAll actions := ⟨[], nofun, hs⟩
  rw [dispatch, room]
  match hnext : h.store.state.attempt action with
  | .error fault =>
    rw [dispatchWithin_of_error hnext, remarked_store]
    exact hstay (by rw [Snapshot.after, hnext])
  | .ok none =>
    rw [dispatchWithin_of_none hnext, remarked_store]
    exact hstay (by rw [Snapshot.after, hnext])
  | .ok (some next) =>
    have hafter : h.store.state.after action = next := by rw [Snapshot.after, hnext]
    cases hl : Store.limitFault? h.store.limit with
    | some fault =>
      rw [dispatchWithin_of_limitFault hnext hl]
      exact hstay hafter.symm
    | none =>
      rw [dispatchWithin_of_some hnext hl, conclude_fst, hafter]
      exact (told_course hA (fun a h ha => chronicleWithin_course hA _ ha h) _ _
        (A.replaced action next h)).exists_afterAll

/-- What holds after the action and is preserved by all that listeners dispatch, holds after the
dispatch. -/
theorem Scene.dispatch_preserves {P : Action → Prop} {J : Snapshot → Prop} {A : Audience σ ι}
    (hA : A.Within P) (hJ : ∀ {s a}, P a → J s → J (s.after a)) {a : Action} {sc : Scene σ ι}
    (h : J (sc.state.after a)) : J (sc.dispatch A a).1.state := by
  obtain ⟨actions, hactions, hstate⟩ := Audience.exists_dispatch_state hA a sc.toHall
  exact (congrArg J hstate).mpr (Snapshot.afterAll_preserves hJ hactions h)

omit [DecidableEq ι] in
/-- While a walk waits, others do no more than dispatch actions of a kind. -/
def Company.Does (answer : Company σ ι τ) (P : Action → Prop) : Prop :=
  ∀ seconds sc t, ∃ actions : List Action, (∀ a ∈ actions, P a) ∧
    (answer seconds sc t).1.1.state = sc.state.afterAll actions

/-! ### What a walk is answered about messages -/

/-- The message that was given by what the reply is to. -/
def Reply.message? : Reply → Option Datum
  | .dispatched action _ => action.message?
  | .waited .. => none

/-- The message that was given last; the one from before if none was given. -/
def lastMessage (message : Datum) (replies : List Reply) : Datum :=
  replies.foldl (fun message reply => reply.message?.getD message) message

theorem lastMessage_append (message : Datum) (replies more : List Reply) :
    lastMessage message (replies ++ more) = lastMessage (lastMessage message replies) more :=
  List.foldl_append

/-- The action gives nobody a message: it takes messages away, or has nothing to do with them. -/
def Action.Wordless (a : Action) : Prop := a.message?.getD .null = .null

/-- A property of snapshots that follows the last message: actions of the one kind, which a walk
dispatches, carry it to the message that they give, and actions of the other leave it. -/
structure Follows (own other : Action → Prop) (K : Datum → Snapshot → Prop) : Prop where
  own : ∀ {a}, own a → ∀ {message s}, K message s → K (a.message?.getD message) (s.after a)
  other : ∀ {a}, other a → ∀ {message s}, K message s → K message (s.after a)

/-- Carried through from one place, the attempt ends with a snapshot that has the property of the
message that was given last. -/
def Attempt.Ends (S : Surroundings σ ι) (answer : Company σ ι τ) (K : Datum → Snapshot → Prop)
    (x : Attempt α) (p : Place σ ι τ) (message : Datum) : Prop :=
  K (lastMessage message (x.run.replies S answer p.1 p.2))
    (x.run.carry S answer p.1 p.2).1.1.state

namespace Attempt

variable {own other : Action → Prop} {K : Datum → Snapshot → Prop} {p : Place σ ι τ}
  {message : Datum}

theorem Ends.bind {x : Attempt α} {f : α → Attempt β} (hx : x.Ends S answer K p message)
    (hf : ∀ a (q : Place σ ι τ) m, K m q.1.state → (f a).Ends S answer K q m) :
    Ends S answer K (x >>= f) p message := by
  unfold Ends at hx ⊢
  rw [carry_bind, replies_bind, lastMessage_append]
  generalize x.run.replies S answer p.1 p.2 = before, x.run.carry S answer p.1 p.2 = walked at hx ⊢
  obtain ⟨q, outcome⟩ := walked
  cases outcome with
  | error e => exact hx
  | ok a => exact hf a q _ hx

/-- A dispatch ends so if the action leads to a snapshot that has the property. -/
theorem Ends.dispatch (hK : Follows own other K) (hS : S.toAudience.Within other) {a : Action}
    (h : K (a.message?.getD message) (p.1.state.after a)) :
    Ends S answer K (dispatch a) p message := by
  have hafter : K (a.message?.getD message) (p.1.dispatch S.toAudience a).1.state :=
    Scene.dispatch_preserves (J := K _) hS (fun ha => hK.other ha) h
  unfold Ends
  simp only [Attempt.dispatch, ExceptT.run_mk, Walk.carry, Walk.replies]
  cases Dispatched.fault? (p.1.dispatch S.toAudience a).2 <;> exact hafter

/-- **Snapshots follow the last message**, whatever the attempt sees and is answered. -/
theorem Made.ends (hK : Follows own other K) (hS : S.toAudience.Within other)
    (hanswer : answer.Does other) {x : Attempt α} (hx : x.Made own)
    (hp : K message p.1.state) : x.Ends S answer K p message := by
  induction hx generalizing p message with
  | pure | fail | snapshot | begin | clock | log | notify => exact hp
  | bind _ _ hx hf => exact (hx hp).bind fun a q m hq => hf a hq
  | dispatch ha => exact .dispatch hK hS (hK.own ha hp)
  | wait seconds =>
    unfold Ends
    simp only [Attempt.wait, ExceptT.run_mk, Walk.carry, Walk.replies]
    cases S.waitFault? seconds (p.1.mapMemory (S.waits seconds)).memory with
    | some fault => exact hp
    | none =>
      obtain ⟨actions, hactions, hstate⟩ :=
        hanswer seconds (p.1.mapMemory (S.waits seconds)) p.2
      have hafter : K message (answer seconds (p.1.mapMemory (S.waits seconds)) p.2).1.1.state :=
        (congrArg (K _) hstate).mpr
          (Snapshot.afterAll_preserves (J := K _) (fun ha => hK.other ha) hactions hp)
      generalize answer seconds (p.1.mapMemory (S.waits seconds)) p.2 = answered at hafter ⊢
      obtain ⟨q, interruption⟩ := answered
      cases interruption <;> exact hafter

end Attempt

/-! ### What is put up is taken down -/

/-- The replies end when the dispatch of a bubble failed, though it puts the bubble up, or when one
was put up and the wait for it was interrupted. -/
inductive Reply.CutOff (actorId : Datum) : List Reply → Prop
  | raised (before : List Reply) (bubble : Bubble) (fault : Fault) :
      CutOff actorId (before ++ [.dispatched (.tell actorId bubble.toDatum) (some fault)])
  | interrupted (before : List Reply) (bubble : Bubble) (seconds : Datum)
      (interruption : Interruption) :
      CutOff actorId (before ++ [.dispatched (.tell actorId bubble.toDatum) none,
        .waited seconds (some interruption)])

namespace Reply.CutOff

variable {actorId : Datum} {replies : List Reply}

theorem prepend (h : CutOff actorId replies) (before : List Reply) :
    CutOff actorId (before ++ replies) := by
  cases h with
  | raised before' bubble fault =>
    rw [← List.append_assoc]
    exact .raised _ bubble fault
  | interrupted before' bubble seconds interruption =>
    rw [← List.append_assoc]
    exact .interrupted _ bubble seconds interruption

/-- The bubble that was to be put up is the message that was given last. -/
theorem exists_lastMessage_eq (h : CutOff actorId replies) (message : Datum) :
    ∃ bubble : Bubble, lastMessage message replies = bubble.toDatum := by
  cases h with
  | raised before bubble fault => exact ⟨bubble, lastMessage_append ..⟩
  | interrupted before bubble seconds interruption => exact ⟨bubble, lastMessage_append ..⟩

end Reply.CutOff

/-- A run was broken off with a bubble up: its blocks were cut off so, and then the flag was
cleared. -/
def Reply.BrokenOff (actorId : Datum) (replies : List Reply) : Prop :=
  ∃ cut fault?, CutOff actorId cut ∧ replies = cut ++ [.dispatched .clearing fault?]

theorem Reply.BrokenOff.exists_lastMessage_eq {actorId : Datum} {replies : List Reply}
    (h : BrokenOff actorId replies) (message : Datum) :
    ∃ bubble : Bubble, lastMessage message replies = bubble.toDatum := by
  obtain ⟨cut, fault?, hcut, rfl⟩ := h
  rw [lastMessage_append]
  exact hcut.exists_lastMessage_eq message

/-- The attempt takes down what it puts up, unless it is cut off; then it has failed. -/
def Attempt.Tidy (S : Surroundings σ ι) (answer : Company σ ι τ) (actorId : Datum) (x : Attempt α) :
    Prop :=
  ∀ p : Place σ ι τ,
    lastMessage .null (x.run.replies S answer p.1 p.2) = .null ∨
      Reply.CutOff actorId (x.run.replies S answer p.1 p.2) ∧
        ∃ e, (x.run.carry S answer p.1 p.2).2 = .error e

namespace Attempt

variable {actorId : Datum}

theorem Tidy.bind {x : Attempt α} {f : α → Attempt β} (hx : x.Tidy S answer actorId)
    (hf : ∀ a, (f a).Tidy S answer actorId) : Tidy S answer actorId (x >>= f) := by
  intro p
  have hp := hx p
  rw [carry_bind, replies_bind, lastMessage_append]
  generalize x.run.replies S answer p.1 p.2 = before, x.run.carry S answer p.1 p.2 = walked at hp ⊢
  obtain ⟨q, outcome⟩ := walked
  cases outcome with
  | error e =>
    rw [List.append_nil]
    exact hp.imp_right fun h => ⟨h.1, e, rfl⟩
  | ok a =>
    obtain hnull | ⟨-, e, he⟩ := hp
    · rw [hnull]
      exact (hf a q).imp_right fun h => ⟨h.1.prepend before, h.2⟩
    · cases he

/-- What gives nobody a message is tidy. -/
theorem Made.tidy {x : Attempt α} (hx : x.Made Action.Wordless) :
    x.Tidy S answer actorId := by
  refine fun p => .inl ?_
  induction hx generalizing p with
  | pure | fail | snapshot | begin | clock | log | notify => rfl
  | @bind _ _ x f _ _ hx hf =>
    rw [replies_bind, lastMessage_append, hx]
    obtain ⟨q, outcome⟩ := x.run.carry S answer p.1 p.2
    cases outcome with
    | error e => rfl
    | ok a => exact hf a q
  | @dispatch a ha =>
    simp only [Attempt.dispatch, ExceptT.run_mk, Walk.replies]
    cases Dispatched.fault? (p.1.dispatch S.toAudience a).2 <;> exact ha
  | wait seconds =>
    simp only [Attempt.wait, ExceptT.run_mk, Walk.replies]
    cases S.waitFault? seconds (p.1.mapMemory (S.waits seconds)).memory with
    | some fault => rfl
    | none =>
      obtain ⟨q, interruption⟩ := answer seconds (p.1.mapMemory (S.waits seconds)) p.2
      cases interruption <;> rfl

theorem Tidy.times {body : Attempt Unit} (h : body.Tidy S answer actorId) (n : Nat) :
    (times n body).Tidy S answer actorId := by
  induction n with
  | zero => exact (Made.pure ()).tidy
  | succ n ih => exact h.bind fun _ => ih

theorem Tidy.each {body : Block → Attempt Unit} (h : ∀ b, (body b).Tidy S answer actorId)
    (items : List Block) : (each body items).Tidy S answer actorId := by
  induction items with
  | nil => exact (Made.pure ()).tidy
  | cons b rest ih => exact (h b).bind fun _ => ih

theorem dispatch_replies (a : Action) (p : Place σ ι τ) :
    (dispatch a).run.replies S answer p.1 p.2 = [.dispatched a (p.sendFault? S a)] := by
  simp only [Attempt.dispatch, ExceptT.run_mk, Walk.replies, Place.sendFault?]
  cases Dispatched.fault? (p.1.dispatch S.toAudience a).2 <;> rfl

/-- What a dispatch is answered, and then what comes after it. -/
theorem dispatch_bind_replies (a : Action) (f : Unit → Attempt β) (p : Place σ ι τ) :
    (dispatch a >>= f).run.replies S answer p.1 p.2 =
      .dispatched a (p.sendFault? S a) ::
        match p.sendFault? S a with
        | some _ => []
        | none => (f ()).run.replies S answer (p.send S a).1 (p.send S a).2 := by
  rw [replies_bind]
  simp only [Attempt.dispatch, ExceptT.run_mk, Walk.replies, Walk.carry, Place.sendFault?,
    Place.send]
  cases Dispatched.fault? (p.1.dispatch S.toAudience a).2 <;> rfl

theorem dispatch_bind_carry (a : Action) (f : Unit → Attempt β) (p : Place σ ι τ) :
    (dispatch a >>= f).run.carry S answer p.1 p.2 =
      match p.sendFault? S a with
      | some fault => (p.send S a, .error (.failed fault))
      | none => (f ()).run.carry S answer (p.send S a).1 (p.send S a).2 := by
  rw [carry_bind]
  simp only [Attempt.dispatch, ExceptT.run_mk, Walk.carry, Place.sendFault?, Place.send]
  cases Dispatched.fault? (p.1.dispatch S.toAudience a).2 <;> rfl

/-- A wait is answered once, and fails if it was interrupted. -/
theorem exists_wait_replies (answer : Company σ ι τ) (seconds : Datum) (p : Place σ ι τ) :
    ∃ (q : Place σ ι τ) (interruption : Option Interruption),
      (wait seconds).run.replies S answer p.1 p.2 = [.waited seconds interruption] ∧
      (wait seconds).run.carry S answer p.1 p.2 =
        (q, match interruption with
          | none => .ok ()
          | some e => .error e) := by
  simp only [Attempt.wait, ExceptT.run_mk, Walk.replies, Walk.carry]
  cases S.waitFault? seconds (p.1.mapMemory (S.waits seconds)).memory with
  | some fault => exact ⟨_, some (.failed fault), rfl, rfl⟩
  | none =>
    obtain ⟨q, interruption⟩ := answer seconds (p.1.mapMemory (S.waits seconds)) p.2
    cases interruption with
    | none => exact ⟨q, none, rfl, rfl⟩
    | some e => exact ⟨q, some e, rfl, rfl⟩

/-- **A bubble** is put up, waited for and taken down, or else it is cut off. -/
theorem bubble_tidy (bubble : Bubble) (seconds : Datum) :
    Tidy S answer actorId (do
      dispatch (.tell actorId bubble.toDatum)
      wait seconds
      dispatch (.tell actorId .null)) := by
  intro p
  rw [dispatch_bind_replies, dispatch_bind_carry]
  cases p.sendFault? S (.tell actorId bubble.toDatum) with
  | some fault => exact .inr ⟨.raised [] bubble fault, _, rfl⟩
  | none =>
    obtain ⟨q, interruption, hwait, hwaited⟩ :=
      exists_wait_replies answer seconds (p.send S (.tell actorId bubble.toDatum))
    dsimp only
    rw [carry_bind, replies_bind, hwait, hwaited]
    cases interruption with
    | some e => exact .inr ⟨.interrupted [] bubble seconds e, e, rfl⟩
    | none =>
      simp only [dispatch_replies]
      exact .inl rfl

end Attempt

namespace Interpreter

variable {I : Interpreter} {actorId : Datum}

/-! ### Blocks -/

open Attempt (Tidy Made)

theorem speak_tidy (b : Block) : Tidy S answer actorId (speak actorId b) :=
  (Made.ofExcept _).tidy.bind fun _ => (Made.ofExcept _).tidy.bind fun _ =>
    Made.clock.tidy.bind fun _ => (Made.ofExcept _).tidy.bind fun _ => Attempt.bubble_tidy _ _

theorem handle_tidy (b : Block) (kind : BlockKind) :
    Tidy S answer actorId (I.handle actorId b kind) := by
  cases kind with
  | move => exact (I.move_made actorId (fun _ _ => rfl) b).tidy
  | turn => exact (I.turn_made actorId (fun _ => rfl) b).tidy
  | goto => exact (I.goto_made actorId (fun _ _ => rfl) b).tidy
  | loop => exact (Made.pure ()).tidy
  | say | think => exact speak_tidy b

theorem step_tidy_of_iterate (room : Nat)
    (h : ∀ b, Tidy S answer actorId (I.iterate actorId room b)) (b : Block) :
    Tidy S answer actorId (I.step actorId room b) := by
  rw [step_eq]
  refine (latest_made actorId b).tidy.bind fun c => (Made.ofExcept _).tidy.bind fun kind => ?_
  cases kind with
  | none => exact (skip_made c).tidy
  | some kind =>
    refine (Made.begin c).tidy.bind fun _ => ?_
    unfold attend
    split_ifs
    · exact h c
    · exact handle_tidy c kind

/-- A block is tidy, with all the blocks that it repeats. -/
theorem step_tidy (room : Nat) (b : Block) : Tidy S answer actorId (I.step actorId room b) := by
  induction room generalizing b with
  | zero =>
    refine step_tidy_of_iterate 0 (fun c => ?_) b
    exact (Made.ofExcept _).tidy.bind fun _ => (Made.fail _).tidy
  | succ room ih =>
    refine step_tidy_of_iterate (room + 1) (fun c => ?_) b
    exact (Made.ofExcept _).tidy.bind fun n => (Tidy.each ih _).times n

theorem animate_tidy (a : Actor) : Tidy S answer actorId (I.animate actorId a) := by
  have hset : Action.Wordless (.setRunning (.bool true)) := rfl
  have hreset : Action.Wordless (.resetActors (.float 0.0) (.float 0.0) I.home) := rfl
  exact (Made.dispatch hset).tidy.bind fun _ => (Made.dispatch hreset).tidy.bind fun _ =>
    (swapFirst_made fun _ _ => rfl).tidy.bind fun _ => .each (step_tidy _) _

/-! ### Runs -/

/-- The action sets the running flag, or is one of a run for the actor. -/
def Sends (I : Interpreter) (actorId : Datum) (a : Action) : Prop :=
  a = .setRunning (.bool true) ∨ a.Played I.home actorId

theorem animate_sends (a : Actor) : (I.animate actorId a).Made (I.Sends actorId) := by
  obtain ⟨rest, hrest, hanimate⟩ := I.exists_animate_eq actorId a
  rw [hanimate]
  exact .bind (.dispatch (.inl rfl)) fun _ => hrest.mono fun _ => .inr

theorem discreet_of_block {action : Action} (h : action.OfBlock actorId) :
    action.Discreet ∧ action.message? = none ∨ ∃ message, action = .tell actorId message := by
  cases h with
  | place x y =>
    have hchanges : Snapshot.attributeChanges [("x", .float x), ("y", .float y)] =
      [(.x, .float x), (.y, .float y)] := rfl
    refine .inl ⟨fun change hc => ?_, rfl⟩
    rw [Datum.fields, hchanges] at hc
    rcases List.mem_pair.mp hc with rfl | rfl <;> simp
  | direction direction =>
    have hchanges : Snapshot.attributeChanges [("direction", .float direction)] =
      [(.direction, .float direction)] := rfl
    refine .inl ⟨fun change hc => ?_, rfl⟩
    rw [Datum.fields, hchanges] at hc
    cases List.mem_singleton.mp hc
    simp
  | message message => exact .inr ⟨message, rfl⟩

/-- A property that discreet actions leave, and that follows what the actor is given and the putting
back of all actors, follows a run. -/
theorem follows_of {other : Action → Prop} {K : Datum → Snapshot → Prop}
    (hother : ∀ {a}, other a → ∀ {message s}, K message s → K message (s.after a))
    (hdiscreet : ∀ {a : Action}, a.Discreet → other a)
    (htell : ∀ {message s}, K message s → ∀ m, K m (s.after (.tell actorId m)))
    (hreset : ∀ {message s}, K message s →
      K .null (s.after (.resetActors (.float 0.0) (.float 0.0) I.home))) :
    Follows (I.Sends actorId) other K where
  other := hother
  own := by
    rintro a (rfl | hplayed) message s hs
    · exact hother (hdiscreet (a := .setRunning _) trivial) hs
    cases hplayed with
    | start => exact hreset hs
    | swap first second => exact hother (hdiscreet (a := .swapMoves _ _) trivial) hs
    | block hblock =>
      obtain ⟨ha, hnone⟩ | ⟨m, rfl⟩ := discreet_of_block hblock
      · rw [hnone]
        exact hother (hdiscreet ha) hs
      · exact htell hs m

theorem hushed_follows (I : Interpreter) (actorId : Datum) :
    Follows (I.Sends actorId) Action.Mute fun message s => s.Hushed actorId message :=
  follows_of (fun ha _ _ hs => hs.after ha) Action.Discreet.mute (fun hs m => hs.tell m)
    fun {_ s} _ => (s.silent_after_resetActors _ _ _).hushed actorId .null

theorem shows_follows (I : Interpreter) (actorId : Datum) :
    Follows (I.Sends actorId) Action.Discreet fun message s => s.Shows actorId message :=
  follows_of (fun ha _ _ hs => hs.after ha) id (fun hs m => hs.tell m) fun hs => hs.reset _ _ _

variable {own other : Action → Prop} {K : Datum → Snapshot → Prop} {p : Place σ ι τ}
  {address message : Datum}

/-- However the blocks have ended, only the clearing of the flag changes the snapshot after them. -/
theorem exists_finish_state (answer : Company σ ι τ) (actorId : Datum)
    (outcome : Except Interruption Unit) (p : Place σ ι τ) :
    ∃ q : Place σ ι τ, q.1.state = p.1.state ∧
      ((finish actorId outcome).carry S answer p.1 p.2).1.1.state =
        (q.send S .clearing).1.state := by
  obtain ⟨q, next, hfinish, hstate, -, hnext⟩ := exists_finish_carry outcome p
  refine ⟨q, hstate, ?_⟩
  rw [hfinish, clearing_carry]
  cases q.sendFault? S (.setRunning (.bool false)) with
  | some fault => rfl
  | none => exact hnext.state (q.send S .clearing)

/-- A run ends as its blocks do, since the clearing of the flag has nothing to do with messages. -/
theorem run_ends {a : Actor} (haccept : accept p.1.state p.1.status address = .ok a)
    (hK : Follows own other K) (hS : S.toAudience.Within other) (hclearing : other .clearing)
    (hends : (I.animate (p.1.state.addressee address) a).Ends S answer K
      (p.begun S (p.1.state.addressee address)) message) :
    K (lastMessage message ((I.run address).replies S answer p.1 p.2))
      ((I.run address).carry S answer p.1 p.2).1.1.state := by
  let actorId := p.1.state.addressee address
  let walked := (I.animate actorId a).run.carry S answer (p.begun S actorId).1 p.2
  obtain ⟨fault?, hfinish, -⟩ := exists_finish_replies (S := S) answer actorId walked.2 walked.1
  obtain ⟨q, hq, hstate⟩ := exists_finish_state (S := S) answer actorId walked.2 walked.1
  have hreplies : (I.run address).replies S answer p.1 p.2 = _ :=
    (run_replies haccept).trans (congrArg (_ ++ ·) hfinish)
  have hend : ((I.run address).carry S answer p.1 p.2).1.1.state = (q.send S .clearing).1.state := by
    rw [run_carry haccept]
    exact hstate
  rw [hreplies, lastMessage_append, hend]
  refine Scene.dispatch_preserves (J := K _) hS (fun ha => hK.other ha) (hK.other hclearing ?_)
  rw [hq]
  exact hends

/-- Once the flag has been set, all actors are put to the start, so that messages from before do not
matter; otherwise there must not be any. -/
theorem animate_hushed (hS : S.toAudience.Within Action.Mute) (hanswer : answer.Does Action.Mute)
    (a : Actor) (h : p.1.state.Silent ∨ p.sendFault? S (.setRunning (.bool true)) = none) :
    (I.animate actorId a).Ends S answer (fun message s => s.Hushed actorId message) p .null := by
  have hfollows := hushed_follows I actorId
  obtain hsilent | hset := h
  · exact (animate_sends a).ends hfollows hS hanswer (hsilent.hushed actorId .null)
  · let p₁ := p.send S (.setRunning (.bool true))
    let reset : Action := .resetActors (.float 0.0) (.float 0.0) I.home
    let rest : Attempt Unit := do
      swapFirst
      Attempt.each (I.step actorId (Forest.depth a.blocks + I.spare)) a.blocks
    have hrest : rest.Made (I.Sends actorId) :=
      .bind (swapFirst_made fun _ _ => .inr (.swap _ _)) fun _ =>
        .each (fun b => (I.step_made actorId _ b).mono fun _ h => .inr (.block h)) _
    have hreset : Attempt.Ends S answer (fun message s => s.Hushed actorId message)
        (Attempt.dispatch reset) p₁ .null :=
      .dispatch hfollows hS ((p₁.1.state.silent_after_resetActors _ _ _).hushed actorId .null)
    have hends := hreset.bind fun _ q m hq => hrest.ends hfollows hS hanswer (p := q) hq
    have hanimate : I.animate actorId a = Attempt.dispatch (.setRunning (.bool true)) >>= fun _ =>
      Attempt.dispatch reset >>= fun _ => rest := rfl
    unfold Attempt.Ends
    rw [hanimate, Attempt.dispatch_bind_replies, Attempt.dispatch_bind_carry, hset]
    exact hends

/-- A run has taken down what it put up, or it was broken off and did not come to its end. -/
theorem run_tidy (I : Interpreter) (S : Surroundings σ ι) (answer : Company σ ι τ) {a : Actor}
    (haccept : accept p.1.state p.1.status address = .ok a) :
    let replies := (I.run address).replies S answer p.1 p.2
    lastMessage .null replies = .null ∨
      Reply.BrokenOff (p.1.state.addressee address) replies ∧
        ((I.run address).carry S answer p.1 p.2).2 ≠ .ok .complete := by
  intro replies
  let actorId := p.1.state.addressee address
  let walked := (I.animate actorId a).run.carry S answer (p.begun S actorId).1 p.2
  have htidy : (I.animate actorId a).Tidy S answer actorId := animate_tidy a
  obtain ⟨fault?, hfinish, houtcome⟩ :=
    exists_finish_replies (S := S) answer actorId walked.2 walked.1
  have hreplies : replies = _ ++ [.dispatched .clearing fault?] :=
    (run_replies haccept).trans (congrArg (_ ++ ·) hfinish)
  obtain hnull | ⟨hcut, e, he⟩ := htidy (p.begun S actorId)
  · rw [hreplies, lastMessage_append]
    exact .inl hnull
  · refine .inr ⟨⟨_, fault?, hcut, hreplies⟩, fun hcomplete => ?_⟩
    have hwalked : walked.2 = .error e := he
    have hcome := hcomplete.symm.trans ((congrArg Prod.snd (run_carry haccept)).trans houtcome)
    rw [hwalked] at hcome
    cases fault? <;> cases e <;> cases hcome

/-- **When bubbles stay.** Let nobody but the run give messages to anybody, and let nobody have one
from before, or the setting of the flag not fail. Then, however the run ends, nobody has a message
but perhaps the walked actor, and this neither unless the run was broken off while its bubble was
up, since its dispatch failed or its wait was interrupted; a run that comes to its end is not. If
others leave messages alone, then a run that was so broken off does leave a bubble. -/
theorem silent_after_run (I : Interpreter) {a : Actor}
    (haccept : accept p.1.state p.1.status address = .ok a)
    (hS : S.toAudience.Within Action.Mute) (hanswer : answer.Does Action.Mute)
    (hstart : p.1.state.Silent ∨ (p.begun S (p.1.state.addressee address)).sendFault? S
      (.setRunning (.bool true)) = none) :
    let actorId := p.1.state.addressee address
    let carried := (I.run address).carry S answer p.1 p.2
    let replies := (I.run address).replies S answer p.1 p.2
    (carried.1.1.state.unposed actorId).Silent ∧
      (¬ Reply.BrokenOff actorId replies → carried.1.1.state.Silent) ∧
      (carried.2 = .ok .complete → ¬ Reply.BrokenOff actorId replies) ∧
      (S.toAudience.Within Action.Discreet → answer.Does Action.Discreet →
        Reply.BrokenOff actorId replies →
        ∃ bubble : Bubble, carried.1.1.state.Shows actorId bubble.toDatum) := by
  intro actorId carried replies
  have htidy := I.run_tidy S answer haccept
  have hhushed : carried.1.1.state.Hushed actorId (lastMessage .null replies) :=
    run_ends haccept (hushed_follows I actorId) hS trivial (animate_hushed hS hanswer a hstart)
  refine ⟨hhushed.others, fun hnot => ?_, fun hcomplete hbroken => ?_, fun hS hanswer hbroken => ?_⟩
  · obtain hnull | ⟨hbroken, -⟩ := htidy
    · exact (hnull ▸ hhushed).silent
    · exact absurd hbroken hnot
  · obtain hnull | ⟨-, hfails⟩ := htidy
    · obtain ⟨bubble, hbubble⟩ := hbroken.exists_lastMessage_eq .null
      cases hbubble.symm.trans hnull
    · exact hfails hcomplete
  · -- the walked actor has the message that was given last, and this is the bubble
    obtain ⟨-, -, haddressed, -⟩ := accept_eq_ok_iff.mp haccept
    have hshows : p.1.state.Shows actorId a.message :=
      ⟨a, (Snapshot.actor?_eq_some_iff.mp haddressed).2, rfl⟩
    have hfollows := shows_follows I actorId
    have hended := run_ends haccept hfollows hS trivial
      ((animate_sends a).ends hfollows hS hanswer (p := p.begun S actorId) hshows)
    obtain ⟨bubble, hbubble⟩ := hbroken.exists_lastMessage_eq a.message
    exact ⟨bubble, hbubble ▸ hended⟩

/-! ### A bubble that stays -/

/-- An actor that has one thing to say. -/
def herald : Actor where
  id := .str "herald"
  name := .str "Herald"
  blocks := [{
    id := .str "hail"
    kind := .str "say"
    params := .object [("text", .str "Hi"), ("seconds", .num (.int 2))] }]

/-- The herald alone on a stage. -/
def heraldScene : Scene Rehearsal Onlooker where
  store := {
    state := { actors := [herald], activeActorId := herald.id }
    listeners := [.recorder] }
  memory := { journal := {}, now := .int 0 }

end Interpreter

/-- In a strict company, no wait comes to its end: whoever waits is called off. -/
def Company.strict : Company σ ι τ := fun _ sc t => ((sc, t), some .cancelled)

omit [DecidableEq ι] in
theorem Company.strict_does (P : Action → Prop) : (strict : Company σ ι τ).Does P :=
  fun _ _ _ => ⟨[], nofun, rfl⟩

namespace Interpreter

theorem heraldScene_silent : heraldScene.state.Silent := by
  intro a ha
  cases List.mem_singleton.mp ha
  rfl

/-- The run of the herald is called off while its bubble is up, and the bubble stays. -/
theorem herald_called_off :
    let I : Interpreter := { spare := 0 }
    let S := Rehearsal.recorded.toSurroundings
    let answer : Company Rehearsal Onlooker Unit := Company.strict
    let p : Place Rehearsal Onlooker Unit := (heraldScene, ())
    let carried := (I.run (.str "")).carry S answer p.1 p.2
    accept p.1.state p.1.status (.str "") = .ok herald ∧
      p.1.state.Silent ∧ carried.2 = .error .cancelled ∧
      Reply.BrokenOff herald.id ((I.run (.str "")).replies S answer p.1 p.2) ∧
      ∃ bubble : Bubble, carried.1.1.state.Shows herald.id bubble.toDatum := by
  intro I S answer p carried
  have haccept : accept p.1.state p.1.status (.str "") = .ok herald := rfl
  have hS := Rehearsal.recorded_aloof
  obtain ⟨-, hsilent, -, hstays⟩ := silent_after_run I haccept (hS.within _)
    (Company.strict_does _) (.inl heraldScene_silent)
  have hshown : carried.1.1.state.actors.any (·.message.truthy) = true := by decide +kernel
  have hbroken : Reply.BrokenOff herald.id ((I.run (.str "")).replies S answer p.1 p.2) := by
    by_contra hnot
    exact (hsilent hnot).not_any_truthy hshown
  exact ⟨haccept, heraldScene_silent, by decide +kernel, hbroken,
    hstays (hS.within _) (Company.strict_does _) hbroken⟩

/-- So it is not so that a run leaves nobody with a message whichever way it ends. -/
theorem herald_bubble_stays :
    ¬ ∀ (I : Interpreter) (S : Surroundings Rehearsal Onlooker)
        (answer : Company Rehearsal Onlooker Unit) (p : Place Rehearsal Onlooker Unit)
        (address : Datum) (a : Actor),
      accept p.1.state p.1.status address = .ok a → p.1.state.Silent →
      S.toAudience.Within Action.Discreet → answer.Does Action.Discreet →
        ((I.run address).carry S answer p.1 p.2).1.1.state.Silent := by
  intro h
  have hsilent := h { spare := 0 } Rehearsal.recorded.toSurroundings Company.strict
    (heraldScene, ()) (.str "") herald rfl heraldScene_silent
    (Rehearsal.recorded_aloof.within _) (Company.strict_does _)
  exact hsilent.not_any_truthy (by decide +kernel)

end Interpreter

end SpriteStage
