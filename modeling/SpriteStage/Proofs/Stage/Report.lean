import SpriteStage.Proofs.Forest.Replaced
import SpriteStage.Proofs.Snapshot.Amend
import SpriteStage.Proofs.Snapshot.Distinct
import SpriteStage.Proofs.Stage.Ensures
import SpriteStage.Proofs.Stage.Session

/-!
# What operations report

An operation that is refused, or does not find the place for a change, leaves the snapshot as it is.
If it reports that it was carried out, then it was, and the block or actor that it names is the one
in question (`Operation.Did`). Three reports overlook that nothing happened (`Operation.Overlooks`):
of a new block or a new actor whose identifier is taken already, and of a program that is cleared
though its actor is not there. So each operation reports what it did but for these cases
(`Session.operations_report`).
-/

namespace SpriteStage

/-- In the second snapshot, the program of the addressed actor is another one, and nothing else. -/
def Snapshot.Rewrites (s : Snapshot) (address : Datum) (R : Forest → Forest → Prop)
    (s' : Snapshot) : Prop :=
  ∃ before a rest f, s.actors = before ++ a :: rest ∧ s.addressed? address = some a ∧
    R a.blocks f ∧ s' = { s with actors := before ++ { a with blocks := f } :: rest }

namespace Operation

/-- The operations that come to an answer, as work. -/
def work? : Operation → Option (Stage.Work Answer)
  | selectActor actorId => some (Stage.selectActor actorId)
  | stop => some Stage.stop
  | o => o.edit?

/-- From the first snapshot to the second, the operation did what a report of success with this
detail says. -/
def Did (s s' : Snapshot) : Operation → Detail → Prop
  | addBlock kind address, .made id =>
    ∃ k : BlockKind, kind = .str k.name ∧ s.Rewrites address (fun f g =>
      ¬ Forest.hasId id f ∧ g = f ++ [{ id, kind, params := .object k.defaults }]) s'
  | removeBlock blockId address, .nothing =>
    s.Rewrites address (fun f g =>
      ∃ b, Forest.find? blockId f = some b ∧ Forest.Replaced b [] f g) s'
  | updateBlock blockId params address, .found id true =>
    id = blockId ∧ ∃ entries, params.entries = .ok entries ∧ s.Rewrites address (fun f g =>
      ∃ b, Forest.find? blockId f = some b ∧ Forest.Replaced b [b.withParams entries] f g) s'
  | updateBlock blockId _ address, .found id false =>
    id = blockId ∧ s' = s ∧
      ∀ a, s.addressed? address = some a → ¬ Forest.hasId blockId a.blocks
  | addChild parentId kind address, .found id true =>
    ∃ k : BlockKind, kind = .str k.name ∧ s.Rewrites address (fun f g =>
      ¬ Forest.hasId id f ∧
        ∃ parent, Forest.find? parentId f = some parent ∧ parent.repeats ∧
          Forest.Replaced parent [{ parent with
            children := parent.children ++ [{ id, kind, params := .object k.defaults }] }] f g) s'
  | addChild .., .found _ false => s' = s
  | clearBlocks address, .nothing => s.Rewrites address (fun _ g => g = []) s'
  | addActor, .actor id =>
    ∃ a : Actor, a.id = id ∧ (∀ b ∈ s.actors, ¬ b.hasId id) ∧
      s' = { s with actors := s.actors ++ [a], activeActorId := id }
  | removeActor actorId, .nothing =>
    ∃ before a rest, s.actors = before ++ a :: rest ∧ a.hasId actorId ∧
      s' = { s with
        actors := before ++ rest
        activeActorId := if s.activeActorId.sameValue actorId then
          ((before ++ rest).head?.map (·.id)).getD .null else s.activeActorId }
  | selectActor actorId, .actor id =>
    id = actorId ∧ (s.actor? actorId).isSome ∧ s' = { s with activeActorId := actorId }
  | stop, .nothing => s' = { s with isRunning := .bool false }
  | _, _ => False

/-- A report of success with this detail overlooks that nothing happened: the identifier is taken,
or the actor is not there. -/
def Overlooks (s : Snapshot) : Operation → Detail → Prop
  | addBlock _ address, .made id =>
    ∃ a, s.addressed? address = some a ∧ Forest.hasId id a.blocks
  | addActor, .actor id => ∃ a ∈ s.actors, a.hasId id
  | clearBlocks address, .nothing => s.addressed? address = none
  | _, _ => False

/-- The answer tells what became of the snapshot, or overlooks that nothing did. -/
def Reports (o : Operation) (s : Snapshot) : Answer → Snapshot → Prop
  | .refused .., s' => s' = s
  | .done _ detail, s' =>
    (o.Overlooks s detail → s' = s) ∧ (¬ o.Overlooks s detail → o.Did s s' detail)

end Operation

/-! ### Addresses and programs -/

namespace Forest

variable {f g : Forest} {id : Datum}

theorem meets_singleton {b : Block} (hb : b.children = []) : meets f [b] = hasId b.id f := by
  simp [meets, hb]

theorem hasId_congr (h : shape f = shape g) : hasId id f = hasId id g := by
  have hids (f : Forest) : hasId id f = (ids f).any (·.sameValue id) := by
    rw [ids, List.any_map]
    rfl
  rw [hids, hids, ids_eq_of_shape_eq h]

end Forest

namespace Snapshot

variable {s s' : Snapshot} {address : Datum} {change : Forest → Option Forest}

/-- If the change of a program is not carried out, then there is nothing to change in it. -/
theorem eq_none_of_changeBlocks? (h : s.changeBlocks? address change = none) {a : Actor}
    (ha : s.holder? (s.addressee address) = some a) : change a.blocks = none := by
  rw [changeBlocks?, changeActor?_eq, ha] at h
  simpa using h

/-- What is so of the addressed program is so of the one that is another one. -/
theorem Rewrites.of_addressed? {R : Forest → Forest → Prop} (h : s.Rewrites address R s')
    {a : Actor} (ha : s.addressed? address = some a) : ∃ f, R a.blocks f := by
  obtain ⟨before, b, rest, f, -, hb, hf, -⟩ := h
  cases hb.symm.trans ha
  exact ⟨f, hf⟩

theorem Rewrites.congr {R : Forest → Forest → Prop} {other : Datum} (h : s.Rewrites other R s')
    (haddress : s.addressed? other = s.addressed? address) : s.Rewrites address R s' := by
  obtain ⟨before, a, rest, f, hactors, ha, hf, hs'⟩ := h
  exact ⟨before, a, rest, f, hactors, haddress ▸ ha, hf, hs'⟩

namespace WellFormed

/-- Nobody has nothing for an identifier. -/
theorem addressed?_eq (hs : s.WellFormed) (address : Datum) :
    s.addressed? address = s.holder? (s.addressee address) := by
  unfold addressed?
  cases s.addressee address with
  | null =>
    refine (List.find?_eq_none.mpr fun a ha hid => ?_).symm
    obtain ⟨name, hname⟩ := hs.texts a ha
    have hnull : Datum.null = a.id := (hs.texts a ha).sameValue_iff.mp hid
    cases hnull.trans hname
  | _ => rfl

/-- The identifier of an addressed actor is an address of the same actor. -/
theorem addressed?_id (hs : s.WellFormed) {a : Actor} (ha : s.addressed? address = some a) :
    s.addressed? a.id = some a := by
  have hid : s.addressee address = a.id :=
    (hs.texts a (mem_of_actor? ha)).sameValue_iff.mp (hasId_of_actor? ha)
  have hsame : s.addressee a.id = s.addressee address := by
    unfold addressee at hid ⊢
    split_ifs at hid ⊢ with hown haddress
    · exact hid.symm
    · exact hid.symm
    · exact absurd (hid ▸ ‹address.truthy›) hown
    · rfl
  rw [addressed?, hsame]
  exact ha

theorem rewrites (hs : s.WellFormed) {R : Forest → Forest → Prop}
    (h : s.changeBlocks? address change = some s')
    (hR : ∀ a ∈ s.actors, ∀ f, change a.blocks = some f → R a.blocks f) :
    s.Rewrites address R s' := by
  obtain ⟨before, a, rest, f, hactors, ha, hf, rfl⟩ := exists_of_changeBlocks? h
  have hmem : a ∈ s.actors := List.mem_of_find?_eq_some ha
  exact ⟨before, a, rest, f, hactors, (hs.addressed?_eq address).trans ha, hR a hmem f hf, rfl⟩

/-- The program of the addressed actor has nothing to change if the change is not carried out. -/
theorem eq_none_of_addressed? (hs : s.WellFormed) (h : s.changeBlocks? address change = none)
    {a : Actor} (ha : s.addressed? address = some a) : change a.blocks = none :=
  eq_none_of_changeBlocks? h ((hs.addressed?_eq address).symm.trans ha)

/-- A block that was given parameters is found in the program of the addressed actor. -/
theorem hasId_of_updateParams (hs : s.WellFormed) {blockId : Datum} {params : Fields}
    (h : s.changeBlocks? address (Forest.modify? blockId (Block.withParams params)) = some s') :
    ((s'.addressed? address).any fun a => Forest.hasId blockId a.blocks) = true := by
  have hmatch : s.Match (fun a b => Forest.shape b.blocks = Forest.shape a.blocks) s' :=
    match_changeBlocks? (fun _ => rfl)
      (fun a f _ hf => Forest.shape_modify? (fun b => b.shape_with_params _) hf) h
  obtain ⟨before, a, rest, f, -, ha, hf, rfl⟩ := exists_of_changeBlocks? h
  obtain ⟨b, hb, hshape⟩ := hmatch.actor? ((hs.addressed?_eq address).trans ha)
  have hfound : Forest.hasId blockId a.blocks := by
    rw [Forest.hasId_iff_find?_isSome, ← Forest.isSome_modify?, hf]
    rfl
  have haddressed : Snapshot.addressed?
      { s with actors := before ++ { a with blocks := f } :: rest } address = some b := hb
  rw [haddressed, Option.any_some, Forest.hasId_congr hshape, hfound]

/-- Without an identifier that somebody has, all but that one are left. -/
theorem exists_filter_eq (hs : s.WellFormed) {id : Datum} {a : Actor} (ha : s.actor? id = some a) :
    ∃ before rest, s.actors = before ++ a :: rest ∧
      s.actors.filter (!·.hasId id) = before ++ rest := by
  obtain ⟨before, rest, hactors⟩ := List.append_of_mem (mem_of_actor? ha)
  have hid : a.hasId id := hasId_of_actor? ha
  have hdistinct := hs.distinct
  rw [hactors, List.pairwise_append, List.pairwise_cons] at hdistinct
  obtain ⟨-, ⟨hrest, -⟩, hbefore⟩ := hdistinct
  have hsame {b : Actor} (hb : b ∈ s.actors) (hbid : b.hasId id) : b.id = a.id :=
    ((hs.texts b hb).sameValue_iff.mp hbid).symm.trans
      ((hs.texts a (mem_of_actor? ha)).sameValue_iff.mp hid)
  have hself {b : Actor} (hb : b ∈ s.actors) : b.id.sameValue b.id :=
    (hs.texts b hb).sameValue_iff.mpr rfl
  have hkeep {l : List Actor} (hl : ∀ b ∈ l, ¬ b.hasId id) : l.filter (!·.hasId id) = l :=
    List.filter_eq_self.mpr fun b hb => by simpa using hl b hb
  have hfirst : ∀ b ∈ before, ¬ b.hasId id := fun b hb hbid => by
    have hmem : b ∈ s.actors := hactors ▸ List.mem_append_left _ hb
    exact hbefore b hb a List.mem_cons_self (hsame hmem hbid ▸ hself hmem)
  have hlast : ∀ b ∈ rest, ¬ b.hasId id := fun b hb hbid => by
    have hmem : b ∈ s.actors := hactors ▸ List.mem_append_right _ (List.mem_cons_of_mem _ hb)
    exact hrest b hb (hsame hmem hbid ▸ hself hmem)
  refine ⟨before, rest, hactors, ?_⟩
  rw [hactors, List.filter_append, hkeep hfirst, List.filter_cons_of_neg (by simpa using hid),
    hkeep hlast]

end WellFormed

end Snapshot

/-! ### The operations -/

namespace Stage

open Work

variable {s : Snapshot}

theorem ensures_addBlock (hs : s.WellFormed) (kind address : Datum) :
    (addBlock kind address).Ensures s ((Operation.addBlock kind address).Reports s) := by
  refine .unlessRunning (fun _ _ => rfl) (.state ?_)
  cases ha : s.addressed? address with
  | none => exact .refuse rfl
  | some a =>
    refine .make (.refuse rfl) fun id k hkind => .dispatch (fun s' hafter => .done ?_) fun hafter =>
      .done ?_
    · have hrewrites : s.Rewrites address (fun f g => ¬ Forest.hasId (.str id) f ∧
          g = f ++ [{ id := .str id, kind, params := .object k.defaults }]) s' := by
        refine (hs.rewrites hafter fun b _ f hf => ?_).congr ((hs.addressed?_id ha).trans ha.symm)
        obtain ⟨hmeets, hf⟩ := Forest.eq_of_appended? hf
        exact ⟨by simpa [Forest.meets_singleton] using hmeets, hf⟩
      refine ⟨?_, fun _ => ⟨k, hkind, hrewrites⟩⟩
      rintro ⟨b, hb, htaken⟩
      obtain ⟨f, hfree, -⟩ := hrewrites.of_addressed? hb
      exact absurd htaken hfree
    · have hnone := hs.eq_none_of_addressed? hafter (hs.addressed?_id ha)
      have htaken : Forest.hasId (.str id) a.blocks := by
        simpa [Snapshot.appended?, Forest.meets_singleton] using hnone
      exact ⟨fun _ => rfl, fun hnot => absurd ⟨a, ha, htaken⟩ hnot⟩

theorem ensures_removeBlock (hs : s.WellFormed) (blockId address : Datum) :
    (removeBlock blockId address).Ensures s
      ((Operation.removeBlock blockId address).Reports s) := by
  refine .unlessRunning (fun _ _ => rfl) ?_
  refine .dispatch (fun s' hafter => .done ?_) fun _ => .refuse rfl
  have hrewrites : s.Rewrites address (fun f g =>
      ∃ b, Forest.find? blockId f = some b ∧ Forest.Replaced b [] f g) s' :=
    hs.rewrites hafter fun a ha f hf => (hs.programs a ha).exists_replaced_of_erased? hf
  exact ⟨False.elim, fun _ => hrewrites⟩

theorem ensures_updateBlock (hs : s.WellFormed) (blockId params address : Datum) :
    (updateBlock blockId params address).Ensures s
      ((Operation.updateBlock blockId params address).Reports s) := by
  refine .unlessRunning (fun _ _ => rfl) ?_
  cases hentries : params.entries with
  | error fault => exact .throw fault
  | ok entries =>
    refine .dispatch (fun s' hafter => .state (.done ?_)) fun hafter => .state (.done ?_)
    · rw [hs.hasId_of_updateParams hafter]
      refine ⟨False.elim, fun _ => ⟨rfl, entries, hentries, ?_⟩⟩
      exact hs.rewrites hafter fun a _ f hf => Forest.exists_replaced_of_modify? hf
    · have hmissing (a : Actor) (ha : s.addressed? address = some a) :
          ¬ Forest.hasId blockId a.blocks := by
        have hnone : Forest.modify? blockId (Block.withParams entries) a.blocks = none :=
          hs.eq_none_of_addressed? hafter ha
        rw [Forest.hasId_iff_find?_isSome, ← Forest.isSome_modify?, hnone]
        nofun
      have hfound :
          ((s.addressed? address).any fun a => Forest.hasId blockId a.blocks) = false := by
        cases ha : s.addressed? address with
        | none => rfl
        | some a => simpa using hmissing a ha
      rw [hfound]
      exact ⟨False.elim, fun _ => ⟨rfl, rfl, hmissing⟩⟩

theorem ensures_addChild (hs : s.WellFormed) (parentId kind address : Datum) :
    (addChild parentId kind address).Ensures s
      ((Operation.addChild parentId kind address).Reports s) := by
  refine .unlessRunning (fun _ _ => rfl) (.make (.refuse rfl) fun id k hkind => ?_)
  refine .dispatch (fun s' hafter => .done ⟨False.elim, fun _ => ⟨k, hkind, ?_⟩⟩) fun _ =>
    .done ⟨False.elim, fun _ => rfl⟩
  refine hs.rewrites hafter fun a ha f hf => ?_
  obtain ⟨hmeets, -⟩ := Forest.exists_of_nested? hf
  exact ⟨by simpa [Forest.meets_singleton] using hmeets, Forest.exists_replaced_of_nested? hf⟩

theorem ensures_clearBlocks (hs : s.WellFormed) (address : Datum) :
    (clearBlocks address).Ensures s ((Operation.clearBlocks address).Reports s) := by
  refine .unlessRunning (fun _ _ => rfl) (.dispatch (fun s' hafter => .done ?_) fun hafter =>
    .done ?_)
  · have hcleared : s.changeBlocks? address (fun _ => some []) = some s' := hafter
    have hrewrites : s.Rewrites address (fun _ g => g = []) s' :=
      hs.rewrites hcleared fun _ _ _ hf => (Option.some.inj hf).symm
    refine ⟨fun hnobody => ?_, fun _ => hrewrites⟩
    obtain ⟨_, a, _, _, -, ha, -⟩ := hrewrites
    cases hnobody.symm.trans ha
  · have hkept : s.changeBlocks? address (fun _ => some []) = none := hafter
    refine ⟨fun _ => rfl, fun hsomebody => ?_⟩
    obtain ⟨a, ha⟩ := Option.ne_none_iff_exists'.mp hsomebody
    cases hs.eq_none_of_addressed? hkept ha

theorem ensures_addActor (s : Snapshot) :
    addActor.Ensures s (Operation.addActor.Reports s) := by
  refine .unlessRunning (fun _ _ => rfl) (.state (.draw .throw fun supply a supply' hcreate => ?_))
  have htext : a.id.IsText := (Actor.create_sound hcreate).1
  refine .dispatch (fun s' hafter => .done ?_) fun hafter => .done ?_ <;>
    simp only [Snapshot.after?, Snapshot.withActor?] at hafter <;> split_ifs at hafter with htaken
  · cases hafter
    have hfree := Snapshot.not_hasId_of_actor?_eq_none htext (by simpa using htaken)
    refine ⟨?_, fun _ => ⟨a, rfl, hfree, rfl⟩⟩
    rintro ⟨b, hb, hid⟩
    exact absurd hid (hfree b hb)
  · obtain ⟨b, hb⟩ := Option.isSome_iff_exists.mp htaken
    refine ⟨fun _ => rfl, fun hnot => absurd ?_ hnot⟩
    exact ⟨b, Snapshot.mem_of_actor? hb, Snapshot.hasId_of_actor? hb⟩

theorem ensures_removeActor (hs : s.WellFormed) (actorId : Datum) :
    (removeActor actorId).Ensures s ((Operation.removeActor actorId).Reports s) := by
  refine .unlessRunning (fun _ _ => rfl) (.state ?_)
  split_ifs with hlast hnone
  · exact .log _ (.refuse rfl)
  · exact .refuse rfl
  · obtain ⟨a, ha⟩ := Option.ne_none_iff_exists'.mp (mt Option.isNone_iff_eq_none.mpr hnone)
    have hcarried : ¬ (s.actors.length ≤ 1 || (s.actor? actorId).isNone) := by simp [hlast, ha]
    obtain ⟨before, rest, hactors, hfilter⟩ := hs.exists_filter_eq ha
    refine .dispatch (fun s' hafter => .done ?_) fun hafter => ?_
    · simp only [Snapshot.after?, Snapshot.withoutActor?, if_neg hcarried] at hafter
      cases hafter
      refine ⟨False.elim, fun _ => ⟨before, a, rest, hactors, Snapshot.hasId_of_actor? ha, ?_⟩⟩
      rw [hfilter]
    · simp only [Snapshot.after?, Snapshot.withoutActor?, if_neg hcarried] at hafter
      cases hafter

theorem ensures_selectActor (s : Snapshot) (actorId : Datum) :
    (selectActor actorId).Ensures s ((Operation.selectActor actorId).Reports s) := by
  refine .state ?_
  split_ifs with hnone
  · exact .refuse rfl
  · have hsome : (s.actor? actorId).isSome := by simpa [Option.isSome_iff_ne_none] using hnone
    refine .dispatch (fun s' hafter => .done ?_) fun hafter => ?_
    · simp only [Snapshot.after?, Snapshot.withActive?, if_pos hsome] at hafter
      cases hafter
      exact ⟨False.elim, fun _ => ⟨rfl, hsome, rfl⟩⟩
    · simp only [Snapshot.after?, Snapshot.withActive?, if_pos hsome] at hafter
      cases hafter

theorem ensures_stop (s : Snapshot) : stop.Ensures s (Operation.stop.Reports s) := by
  refine .dispatch (fun s' hafter => .done ?_) nofun
  cases hafter
  exact ⟨False.elim, fun _ => rfl⟩

end Stage

/-- Each operation, on a stage whose snapshot is well-formed, reports what it did. -/
theorem Operation.ensures_report {o : Operation} {w : Stage.Work Answer} (hw : o.work? = some w)
    {s : Snapshot} (hs : s.WellFormed) : w.Ensures s (o.Reports s) := by
  cases o with
  | addBlock kind address =>
    cases hw
    exact Stage.ensures_addBlock hs kind address
  | removeBlock blockId address =>
    cases hw
    exact Stage.ensures_removeBlock hs blockId address
  | updateBlock blockId params address =>
    cases hw
    exact Stage.ensures_updateBlock hs blockId params address
  | addChild parentId kind address =>
    cases hw
    exact Stage.ensures_addChild hs parentId kind address
  | clearBlocks address =>
    cases hw
    exact Stage.ensures_clearBlocks hs address
  | addActor =>
    cases hw
    exact Stage.ensures_addActor s
  | removeActor actorId =>
    cases hw
    exact Stage.ensures_removeActor hs actorId
  | selectActor actorId =>
    cases hw
    exact Stage.ensures_selectActor s actorId
  | stop =>
    cases hw
    exact Stage.ensures_stop s
  | run | startRun => cases hw

namespace Session

/-- In a session the snapshot is well-formed, whatever has happened. -/
theorem after_wellFormed (I : Interpreter) (supply : Supply) (tick limit : Datum) (now : Number)
    (scheduling : Bool) (happened : List Occurrence) :
    (after happened (opened I supply tick limit now scheduling)).state.WellFormed :=
  (after_sound (opened_sound I supply tick limit now scheduling) happened).snapshots _
    List.mem_cons_self

/-- **Operations report what they did**, on any stage whose snapshot is well-formed, as it is in
every session (`after_wellFormed`), whatever they are given and whatever identifiers are drawn, but
for what the report of a success overlooks: that an identifier is taken, or that the actor to be
cleared is not there. Then nothing happened. -/
theorem operations_report {s : Stage} (hs : s.state.WellFormed) {o : Operation}
    {w : Stage.Work Answer} (hw : o.work? = some w) {answer : Answer}
    (hanswer : (w.run.run s).1 = .ok answer) :
    o.Reports s.state answer (w.run.run s).2.state :=
  Operation.ensures_report hw hs s answer rfl hanswer

/-- A block is put into one that repeats. -/
theorem nested_reported :
    let s := after [.operation (.addBlock (.str "repeat") .null)]
      (opened {} { given := ["aaaaaaaaa", "bbbbbbbbb"] } (.float 0.1) (.int 50) (.float 1000.0)
        true)
    let o := Operation.addChild (.str "aaaaaaaaa") (.str "say") .null
    s.state.running = false ∧ s.state.WellFormed ∧
      o.Did s.state (o.perform s).state (.found (.str "bbbbbbbbb") true) := by
  intro s o
  let w := Stage.addChild (.str "aaaaaaaaa") (.str "say") .null
  have hw : o.work? = some w := rfl
  have hran : (w.run.run s).1.toOption.any (fun answer =>
      match answer with
      | .done _ (.found id isFound) => id.sameValue (.str "bbbbbbbbb") && isFound
      | _ => false) := by decide +kernel
  have hs : s.state.WellFormed := after_wellFormed ..
  refine ⟨by decide +kernel, hs, ?_⟩
  cases hanswer : (w.run.run s).1 with
  | error fault =>
    rw [hanswer] at hran
    cases hran
  | ok answer =>
    rw [hanswer, Except.toOption, Option.any_some] at hran
    split at hran
    · obtain ⟨hid, rfl⟩ := Bool.and_eq_true_iff.mp hran
      obtain rfl := (Datum.sameValue_iff_str _ _).mp hid
      obtain ⟨-, hdid⟩ := operations_report hs hw hanswer
      exact hdid id
    · cases hran

/-- **A new block whose identifier is taken is reported and is not there.** -/
theorem twin_not_added :
    let s := after [.operation (.addBlock (.str "move") .null)]
      (opened {} { given := ["aaaaaaaaa", "aaaaaaaaa"] } (.float 0.1) (.int 50) (.float 1000.0)
        true)
    let o := Operation.addBlock (.str "turn") .null
    let w := Stage.addBlock (.str "turn") .null
    s.state.running = false ∧ o.work? = some w ∧
      (∃ notice, (w.run.run s).1 = .ok (.done notice (.made (.str "aaaaaaaaa")))) ∧
      ¬ o.Did s.state (w.run.run s).2.state (.made (.str "aaaaaaaaa")) := by
  intro s o w
  have hran : (w.run.run s).1.toOption.any (fun answer =>
      match answer with
      | .done _ (.made id) => id.sameValue (.str "aaaaaaaaa")
      | _ => false) := by decide +kernel
  have htaken : (s.state.addressed? .null).all fun a =>
      Forest.hasId (.str "aaaaaaaaa") a.blocks := by decide +kernel
  refine ⟨by decide +kernel, rfl, ?_, ?_⟩
  · cases hanswer : (w.run.run s).1 with
    | error fault =>
      rw [hanswer] at hran
      cases hran
    | ok answer =>
      rw [hanswer, Except.toOption, Option.any_some] at hran
      split at hran
      · obtain rfl := (Datum.sameValue_iff_str _ _).mp hran
        exact ⟨_, rfl⟩
      · cases hran
  · rintro ⟨k, -, hrewrites⟩
    obtain ⟨_, a, _, _, -, ha, ⟨hfree, -⟩, -⟩ := hrewrites
    rw [ha, Option.all_some] at htaken
    exact hfree htaken

end Session

end SpriteStage
