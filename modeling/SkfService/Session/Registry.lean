import Mathlib.Data.List.Perm.Basic
import SkfService.Machine.Steps
import SkfService.Session.State

/-! The registry of sessions, under any order of the steps of their guards.

A guard holds the only lasting reference to its marker, and the registry a weak one. Session state
is held by value: a request takes it to a task of its own, and what is put back may be another
state. -/

set_option autoImplicit false

namespace SkfService.Registry

open Machine

abbrev SessionId := String

structure Identified where
  id : SessionId
  state : SessionState

/-- `create` makes the marker, registers it and returns; dropping deregisters it and then drops the
fields. -/
inductive Stage
  | created
  | registering
  | alive
  | dropping
  | gone
  deriving DecidableEq

/-- A guard counts from its registration to its deregistration. -/
def Stage.live : Stage → Bool
  | .registering | .alive => true
  | _ => false

structure Guard where
  id : SessionId
  strong : Nat
  state : Option Identified
  stage : Stage

/-- The registered ids with the place of their markers, the guards made so far, and the states that
tasks own. -/
structure World where
  sessions : List (SessionId × Nat)
  guards : List Guard
  tasks : List Identified

inductive Action
  | create (state : Identified)
  | register (place : Nat)
  | enter (place : Nat)
  | take (place : Nat)
  | put (place task : Nat)
  | replace (place : Nat) (state : Identified)
  | finish (task : Nat)
  | deregister (place : Nat)
  | release (place : Nat)
  | count

namespace World

def empty : World := ⟨[], [], []⟩

def set (w : World) (place : Nat) (guard : Guard) : World :=
  { w with guards := w.guards.set place guard }

def insert (w : World) (id : SessionId) (place : Nat) : World :=
  { w with sessions := (id, place) :: w.sessions.filter fun entry => entry.1 ≠ id }

def remove (w : World) (id : SessionId) : World :=
  { w with sessions := w.sessions.filter fun entry => entry.1 ≠ id }

def strongCount (w : World) (place : Nat) : Nat :=
  match w.guards[place]? with
  | some guard => guard.strong
  | none => 0

def retain (w : World) : World :=
  { w with sessions := w.sessions.filter fun entry => 0 < w.strongCount entry.2 }

/-- `session_count`: what is left after the pruning. -/
def sessionCount (w : World) : Nat := w.retain.sessions.length

def live (w : World) : List Guard := w.guards.filter fun guard => guard.stage.live

def ids (w : World) : List SessionId := w.guards.map Guard.id

end World

/-- A step that a guard is not ready for changes nothing. -/
def step (w : World) : Action → World
  | .create state => { w with guards := w.guards ++ [⟨state.id, 1, some state, .created⟩] }
  -- The weak reference is made from a clone, which lives until the registry is left.
  | .register place =>
    match w.guards[place]? with
    | some ⟨id, strong, state, .created⟩ =>
      (w.insert id place).set place ⟨id, strong + 1, state, .registering⟩
    | _ => w
  | .enter place =>
    match w.guards[place]? with
    | some ⟨id, strong, state, .registering⟩ => w.set place ⟨id, strong - 1, state, .alive⟩
    | _ => w
  | .take place =>
    match w.guards[place]? with
    | some ⟨id, strong, some state, .alive⟩ =>
      { w.set place ⟨id, strong, none, .alive⟩ with tasks := w.tasks ++ [state] }
    | _ => w
  | .put place task =>
    match w.guards[place]?, w.tasks[task]? with
    | some ⟨id, strong, _, .alive⟩, some state =>
      { w.set place ⟨id, strong, some state, .alive⟩ with tasks := w.tasks.eraseIdx task }
    | _, _ => w
  | .replace place state =>
    match w.guards[place]? with
    | some ⟨id, strong, _, .alive⟩ => w.set place ⟨id, strong, some state, .alive⟩
    | _ => w
  | .finish task => { w with tasks := w.tasks.eraseIdx task }
  | .deregister place =>
    match w.guards[place]? with
    | some ⟨id, strong, state, .alive⟩ => (w.remove id).set place ⟨id, strong, state, .dropping⟩
    | _ => w
  | .release place =>
    match w.guards[place]? with
    | some ⟨id, strong, _, .dropping⟩ => w.set place ⟨id, strong - 1, none, .gone⟩
    | _ => w
  -- Counting drops the entries whose guard is gone.
  | .count => w.retain

def Action.created : Action → Option SessionId
  | .create state => some state.id
  | _ => none

inductive Moves (w : World) : Action → World → Prop
  | create (state : Identified) :
      Moves w (.create state) { w with guards := w.guards ++ [⟨state.id, 1, some state, .created⟩] }
  | register {place : Nat} {guard : Guard} (here : w.guards[place]? = some guard)
      (stage : guard.stage = .created) :
      Moves w (.register place)
        ((w.insert guard.id place).set place ⟨guard.id, guard.strong + 1, guard.state,
          .registering⟩)
  | enter {place : Nat} {guard : Guard} (here : w.guards[place]? = some guard)
      (stage : guard.stage = .registering) :
      Moves w (.enter place) (w.set place ⟨guard.id, guard.strong - 1, guard.state, .alive⟩)
  | hold {action : Action} {place : Nat} {guard : Guard} {state : Option Identified}
      {tasks : List Identified}
      (here : w.guards[place]? = some guard) (stage : guard.stage = .alive)
      (stays : action.created = none) :
      Moves w action { w.set place ⟨guard.id, guard.strong, state, .alive⟩ with tasks := tasks }
  | finish (task : Nat) : Moves w (.finish task) { w with tasks := w.tasks.eraseIdx task }
  | deregister {place : Nat} {guard : Guard} (here : w.guards[place]? = some guard)
      (stage : guard.stage = .alive) :
      Moves w (.deregister place)
        ((w.remove guard.id).set place ⟨guard.id, guard.strong, guard.state, .dropping⟩)
  | release {place : Nat} {guard : Guard} (here : w.guards[place]? = some guard)
      (stage : guard.stage = .dropping) :
      Moves w (.release place) (w.set place ⟨guard.id, guard.strong - 1, none, .gone⟩)
  | count : Moves w .count w.retain

theorem step_moves (w : World) (action : Action) :
    step w action = w ∨ Moves w action (step w action) := by
  -- Either the guard is in the stage that the action needs, or the action changes nothing.
  cases action with
  | create state => exact .inr (.create state)
  | finish task => exact .inr (.finish task)
  | count => exact .inr .count
  | register place =>
    simp only [step]
    split
    · next id strong state here => exact .inr (.register here rfl)
    · exact .inl rfl
  | enter place =>
    simp only [step]
    split
    · next id strong state here => exact .inr (.enter here rfl)
    · exact .inl rfl
  | take place =>
    simp only [step]
    split
    · next id strong state here => exact .inr (.hold here rfl rfl)
    · exact .inl rfl
  | put place task =>
    simp only [step]
    split
    · next id strong held state here there => exact .inr (.hold here rfl rfl)
    · exact .inl rfl
  | replace place state =>
    simp only [step]
    split
    · next id strong held here => exact .inr (.hold here rfl rfl)
    · exact .inl rfl
  | deregister place =>
    simp only [step]
    split
    · next id strong state here => exact .inr (.deregister here rfl)
    · exact .inl rfl
  | release place =>
    simp only [step]
    split
    · next id strong state here => exact .inr (.release here rfl)
    · exact .inl rfl

def Stage.strong : Stage → Nat
  | .created | .alive | .dropping => 1
  | .registering => 2
  | .gone => 0

theorem Stage.strong_of_live {stage : Stage} (live : stage.live = true) : 0 < stage.strong := by
  cases stage with
  | registering | alive => exact Nat.zero_lt_succ _
  | created | dropping | gone => cases live

/-- The entries are those of the live guards. -/
structure Inv (w : World) : Prop where
  distinct : w.ids.Nodup
  counted : ∀ guard ∈ w.guards, guard.strong = guard.stage.strong
  entries : ∀ id place, (id, place) ∈ w.sessions ↔
    ∃ guard, w.guards[place]? = some guard ∧ guard.stage.live = true ∧ guard.id = id
  once : w.sessions.Nodup

section set

variable {w : World} {place other : Nat} {guard new : Guard}

theorem getElem?_set_self (here : w.guards[place]? = some guard) :
    (w.set place new).guards[place]? = some new := by
  rw [World.set, List.getElem?_set_self (List.getElem?_eq_some_iff.mp here).1]

theorem getElem?_set_ne (different : other ≠ place) :
    (w.set place new).guards[other]? = w.guards[other]? :=
  List.getElem?_set_ne different.symm

theorem ids_set (here : w.guards[place]? = some guard) (same : new.id = guard.id) :
    (w.set place new).ids = w.ids := by
  apply List.ext_getElem?
  intro other
  rw [World.ids, World.ids, List.getElem?_map, List.getElem?_map]
  by_cases equal : other = place
  · subst equal
    rw [getElem?_set_self here, here, Option.map_some, Option.map_some, same]
  · rw [getElem?_set_ne equal]

theorem mem_set {member : Guard} (inside : member ∈ (w.set place new).guards) :
    member ∈ w.guards ∨ member = new :=
  List.mem_or_eq_of_mem_set inside

end set

namespace Inv

variable {w : World} {place other : Nat} {guard new : Guard}

theorem place_eq (inv : Inv w) {found : Guard} (here : w.guards[place]? = some guard)
    (there : w.guards[other]? = some found) (same : found.id = guard.id) : other = place := by
  have inside : other < w.ids.length := by
    rw [World.ids, List.length_map]
    exact (List.getElem?_eq_some_iff.mp there).1
  apply (List.getElem?_inj inside inv.distinct).mp
  rw [World.ids, List.getElem?_map, List.getElem?_map, here, there, Option.map_some,
    Option.map_some, same]

theorem set (inv : Inv w) (here : w.guards[place]? = some guard) (id : new.id = guard.id)
    (strong : new.strong = new.stage.strong) (live : new.stage.live = guard.stage.live) :
    Inv (w.set place new) where
  distinct := by
    rw [ids_set here id]
    exact inv.distinct
  counted member inside := by
    rcases mem_set inside with old | rfl
    · exact inv.counted member old
    · exact strong
  entries name spot := by
    change (name, spot) ∈ w.sessions ↔ _
    rw [inv.entries]
    by_cases equal : spot = place
    · subst equal
      rw [getElem?_set_self here, here]
      simp only [Option.some.injEq, exists_eq_left', live, id]
    · rw [getElem?_set_ne equal]
  once := inv.once

theorem entry_ne (inv : Inv w) (here : w.guards[place]? = some guard) {id : SessionId}
    (different : other ≠ place) (member : (id, other) ∈ w.sessions) : id ≠ guard.id := by
  rintro rfl
  obtain ⟨found, there, -, same⟩ := (inv.entries _ _).mp member
  exact different (inv.place_eq here there same)

theorem register (inv : Inv w) (here : w.guards[place]? = some guard)
    (stage : guard.stage = .created) :
    Inv ((w.insert guard.id place).set place ⟨guard.id, guard.strong + 1, guard.state,
      .registering⟩) := by
  have counted := inv.counted guard (List.mem_of_getElem? here)
  have before : (w.insert guard.id place).guards[place]? = some guard := here
  refine ⟨?_, fun member inside => ?_, fun id spot => ?_, ?_⟩
  · have kept :=
      @ids_set _ place guard ⟨guard.id, guard.strong + 1, guard.state, .registering⟩ before rfl
    rw [kept]
    exact inv.distinct
  · rcases mem_set inside with old | rfl
    · exact inv.counted member old
    · change guard.strong + 1 = 2
      rw [counted, stage]
      rfl
  · change (id, spot) ∈ (guard.id, place) :: w.sessions.filter _ ↔ _
    rw [List.mem_cons, List.mem_filter, decide_eq_true_eq]
    by_cases equal : spot = place
    -- A guard that is being registered had no entry, since only guards in use have one.
    · subst equal
      rw [getElem?_set_self before]
      constructor
      · rintro (same | ⟨member, -⟩)
        · cases same
          exact ⟨_, rfl, rfl, rfl⟩
        · obtain ⟨found, there, live, -⟩ := (inv.entries _ _).mp member
          cases here.symm.trans there
          rw [stage] at live
          cases live
      · rintro ⟨found, there, -, same⟩
        cases there
        exact .inl (congrArg (·, spot) same.symm)
    · rw [getElem?_set_ne equal]
      change _ ↔ ∃ found, w.guards[spot]? = some found ∧ _
      rw [← inv.entries]
      constructor
      · rintro (same | ⟨member, -⟩)
        · cases same
          exact absurd rfl equal
        · exact member
      · intro member
        exact .inr ⟨member, inv.entry_ne here equal member⟩
  · refine List.nodup_cons.mpr ⟨fun member => ?_, inv.once.filter _⟩
    exact of_decide_eq_true (List.mem_filter.mp member).2 rfl

theorem deregister (inv : Inv w) (here : w.guards[place]? = some guard)
    (stage : guard.stage = .alive) :
    Inv ((w.remove guard.id).set place ⟨guard.id, guard.strong, guard.state, .dropping⟩) := by
  have counted := inv.counted guard (List.mem_of_getElem? here)
  have before : (w.remove guard.id).guards[place]? = some guard := here
  refine ⟨?_, fun member inside => ?_, fun id spot => ?_, inv.once.filter _⟩
  · have kept := @ids_set _ place guard ⟨guard.id, guard.strong, guard.state, .dropping⟩ before rfl
    rw [kept]
    exact inv.distinct
  · rcases mem_set inside with old | rfl
    · exact inv.counted member old
    · change guard.strong = 1
      rw [counted, stage]
      rfl
  · change (id, spot) ∈ w.sessions.filter _ ↔ _
    rw [List.mem_filter, decide_eq_true_eq]
    -- The entry of the dropped guard goes, and the places of the others stay.
    by_cases equal : spot = place
    · subst equal
      rw [getElem?_set_self before]
      constructor
      · rintro ⟨member, different⟩
        obtain ⟨found, there, -, same⟩ := (inv.entries _ _).mp member
        cases here.symm.trans there
        exact absurd same.symm different
      · rintro ⟨found, there, live, -⟩
        cases there
        cases live
    · rw [getElem?_set_ne equal]
      change _ ↔ ∃ found, w.guards[spot]? = some found ∧ _
      rw [← inv.entries]
      exact ⟨And.left, fun member => ⟨member, inv.entry_ne here equal member⟩⟩

theorem create (inv : Inv w) (state : Identified) (fresh : state.id ∉ w.ids) :
    Inv { w with guards := w.guards ++ [⟨state.id, 1, some state, .created⟩] } where
  distinct := by
    rw [World.ids, List.map_append, List.map_cons, List.map_nil, List.nodup_append_comm]
    exact List.nodup_cons.mpr ⟨fresh, inv.distinct⟩
  counted member inside := by
    rcases List.mem_append.mp inside with old | new
    · exact inv.counted member old
    · rw [List.mem_singleton.mp new]
      rfl
  entries id spot := by
    change (id, spot) ∈ w.sessions ↔ _
    rw [inv.entries]
    constructor
    · rintro ⟨found, there, live⟩
      exact ⟨found, (List.getElem?_append_left (List.getElem?_eq_some_iff.mp there).1).trans there,
        live⟩
    · rintro ⟨found, there, live, same⟩
      rw [List.getElem?_append] at there
      split at there
      · exact ⟨found, there, live, same⟩
      · rw [List.getElem?_singleton] at there
        split at there
        · cases there
          cases live
        · cases there
  once := inv.once

theorem retain_eq (inv : Inv w) : w.retain = w := by
  have kept : (w.sessions.filter fun entry => 0 < w.strongCount entry.2) = w.sessions := by
    apply List.filter_eq_self.mpr
    rintro ⟨id, spot⟩ member
    obtain ⟨found, there, live, -⟩ := (inv.entries _ _).mp member
    rw [decide_eq_true_eq, World.strongCount, there]
    dsimp only
    rw [inv.counted found (List.mem_of_getElem? there)]
    exact Stage.strong_of_live live
  rw [World.retain, kept]

theorem moves (inv : Inv w) {action : Action} {after : World} (moved : Moves w action after)
    (fresh : ∀ state, action = .create state → state.id ∉ w.ids) : Inv after := by
  cases moved with
  | create state => exact inv.create state (fresh state rfl)
  | register here stage => exact inv.register here stage
  | deregister here stage => exact inv.deregister here stage
  | finish task => exact ⟨inv.distinct, inv.counted, inv.entries, inv.once⟩
  | count =>
    rw [inv.retain_eq]
    exact inv
  | enter here stage | release here stage =>
    have counted := inv.counted _ (List.mem_of_getElem? here)
    refine inv.set here rfl ?_ ?_
    · dsimp only
      rw [counted, stage]
      rfl
    · rw [stage]
      rfl
  | @hold _ place guard state tasks here stage stays =>
    have counted := inv.counted _ (List.mem_of_getElem? here)
    have kept : Inv (w.set place ⟨guard.id, guard.strong, state, .alive⟩) := by
      refine inv.set here rfl ?_ ?_
      · dsimp only
        rw [counted, stage]
      · rw [stage]
    exact ⟨kept.distinct, kept.counted, kept.entries, kept.once⟩

theorem sessionCount_eq (inv : Inv w) : w.sessionCount = w.live.length := by
  let living := w.guards.zipIdx.filter fun item => item.1.stage.live
  let entries := living.map fun item => (item.1.id, item.2)
  have places : (entries.map Prod.snd).Nodup := by
    have sublist : (living.map Prod.snd).Sublist (w.guards.zipIdx.map Prod.snd) :=
      List.filter_sublist.map _
    have range : (w.guards.zipIdx.map Prod.snd).Nodup := by
      rw [List.zipIdx_map_snd]
      exact List.nodup_range'
    rw [List.map_map]
    exact sublist.nodup range
  -- Each entry points at one living guard, and each living guard has its entry.
  have same : ∀ entry, entry ∈ w.sessions ↔ entry ∈ entries := by
    rintro ⟨id, spot⟩
    rw [inv.entries]
    constructor
    · rintro ⟨guard, here, live, rfl⟩
      exact List.mem_map.mpr
        ⟨(guard, spot), List.mem_filter.mpr ⟨List.mem_zipIdx_iff_getElem?.mpr here, live⟩, rfl⟩
    · intro member
      obtain ⟨⟨guard, place⟩, inside, equal⟩ := List.mem_map.mp member
      obtain ⟨here, live⟩ := List.mem_filter.mp inside
      cases equal
      exact ⟨guard, List.mem_zipIdx_iff_getElem?.mp here, live, rfl⟩
  calc w.sessionCount
      _ = w.sessions.length := by rw [World.sessionCount, inv.retain_eq]
      _ = entries.length := ((List.perm_ext_iff_of_nodup inv.once places.of_map).mpr same).length_eq
      _ = (living.map Prod.fst).length := by rw [List.length_map, List.length_map]
      _ = w.live.length := by
        rw [World.live, ← List.zipIdx_map_fst 0 w.guards, List.filter_map]
        rfl

end Inv

theorem ids_moves {w after : World} {action : Action} (moved : Moves w action after) :
    after.ids = w.ids ++ action.created.toList := by
  have unmade {ids : List SessionId} (same : ids = w.ids) : ids = w.ids ++ [] :=
    same.trans (List.append_nil _).symm
  cases moved with
  | create state => exact List.map_append
  | finish | count => exact unmade rfl
  | enter here stage | release here stage => exact unmade (ids_set here rfl)
  | @register place guard here stage =>
    exact unmade (@ids_set (w.insert guard.id place) place guard _ here rfl)
  | @deregister place guard here stage =>
    exact unmade (@ids_set (w.remove guard.id) place guard _ here rfl)
  | @hold _ place guard state tasks here stage stays =>
    rw [stays]
    exact unmade (@ids_set w place guard ⟨guard.id, guard.strong, state, .alive⟩ here rfl)

theorem ids_step (w : World) (action : Action) :
    (step w action).ids = w.ids ++ action.created.toList := by
  rcases step_moves w action with same | moved
  · cases action with
    | create state => exact ids_moves (.create state)
    | _ =>
      rw [same]
      exact (List.append_nil _).symm
  · exact ids_moves moved

theorem inv_reached {w : World} (inv : Inv w) {actions : List Action}
    (distinct : (w.ids ++ actions.filterMap Action.created).Nodup) :
    ∀ r ∈ visited step w actions, Inv r := by
  induction actions generalizing w with
  | nil => exact List.forall_mem_singleton.mpr inv
  | cons action later ih =>
    have spelled : w.ids ++ (action :: later).filterMap Action.created =
        (step w action).ids ++ later.filterMap Action.created := by
      rw [ids_step, List.append_assoc, List.filterMap_cons]
      cases action.created <;> rfl
    rw [spelled] at distinct
    have next : Inv (step w action) := by
      rcases step_moves w action with same | moved
      · rw [same]
        exact inv
      · refine inv.moves moved fun state makes => ?_
        have apart := (List.nodup_append.mp distinct).1
        rw [ids_step, makes] at apart
        intro member
        exact (List.nodup_append.mp apart).2.2 _ member _ (List.mem_singleton_self _) rfl
    exact List.forall_mem_cons.mpr ⟨inv, ih next distinct⟩

def Action.onState : Action → Bool
  | .take _ | .put _ _ | .replace _ _ | .finish _ => true
  | _ => false

def Untouched (before after : World) : Prop :=
  after.sessions = before.sessions ∧ after.guards.map Guard.id = before.guards.map Guard.id ∧
    after.guards.map Guard.strong = before.guards.map Guard.strong

theorem untouched_step (w : World) {action : Action} (onState : action.onState = true) :
    Untouched w (step w action) := by
  have held {place : Nat} {guard : Guard} {state : Option Identified} {tasks : List Identified}
      (here : w.guards[place]? = some guard) :
      Untouched w { w.set place ⟨guard.id, guard.strong, state, .alive⟩ with tasks := tasks } := by
    refine ⟨rfl, ids_set here rfl, ?_⟩
    apply List.ext_getElem?
    intro other
    rw [List.getElem?_map, List.getElem?_map]
    by_cases equal : other = place
    · subst equal
      rw [getElem?_set_self here, here]
      rfl
    · rw [getElem?_set_ne equal]
  rcases step_moves w action with same | moved
  · rw [same]
    exact ⟨rfl, rfl, rfl⟩
  · generalize step w action = after at moved ⊢
    cases moved with
    | finish task => exact ⟨rfl, rfl, rfl⟩
    | hold here stage stays => exact held here
    | create | register | enter | deregister | release | count => cases onState

namespace Replacing

def state (id : SessionId) : Identified := ⟨id, .new 900⟩

/-- Two sessions; one gets a replacement while a task still has its state, and is dropped before the
task ends. -/
def actions : List Action :=
  [.create (state "a"), .register 0, .enter 0, .create (state "b"), .register 1, .enter 1, .take 0,
    .replace 0 (state "c"), .count, .deregister 0, .release 0, .count, .finish 0]

end Replacing

/-- In any order of the steps of guards with distinct ids, of the states that are taken, replaced
and detached, and of counting, the count is that of the guards alive, their entries are the
registry, and a marker is held by its guard only; no step on a state touches either. -/
theorem session_count_live {actions : List Action}
    (distinct : (actions.filterMap Action.created).Nodup) :
    ∀ w ∈ visited step .empty actions, w.sessionCount = w.live.length ∧
      (∀ id place, (id, place) ∈ w.sessions ↔
        ∃ guard, w.guards[place]? = some guard ∧ guard.stage.live = true ∧ guard.id = id) ∧
      (∀ guard ∈ w.guards, guard.strong = guard.stage.strong) ∧
      ∀ action, action.onState = true → Untouched w (step w action) := by
  have empty : Inv .empty := by
    refine ⟨List.nodup_nil, List.forall_mem_nil _, fun id place => ?_, List.nodup_nil⟩
    constructor
    · intro none
      cases none
    · rintro ⟨guard, none, -⟩
      cases none
  intro w member
  have inv := inv_reached empty distinct w member
  exact ⟨inv.sessionCount_eq, inv.entries, inv.counted, fun action => untouched_step w⟩

theorem session_count_live_replaced :
    (Replacing.actions.foldl step .empty).sessionCount =
      (Replacing.actions.foldl step .empty).live.length :=
  (session_count_live (by decide) _ (last_mem_visited Replacing.actions)).1

end SkfService.Registry
