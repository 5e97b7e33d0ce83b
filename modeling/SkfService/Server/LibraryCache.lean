import SkfService.Dispatch.Context
import SkfService.Machine.Steps
import Mathlib.Logic.Function.Basic

/-! The cache of loaded libraries under concurrent calls of `get_api`.

A call reads the cache, loads the library if it is not there, and writes it to the cache, in three
steps between which other calls may take theirs. -/

set_option autoImplicit false

namespace SkfService.GetApi

open Machine Interaction Program

/-- How far a call has come. Every load makes an instance of its own. -/
inductive Phase
  | reading
  | loading
  | writing (api : Nat)
  | returned (result : Except String Nat)

structure Call where
  provider : String
  phase : Phase

/-- The cache, the instances made so far with their aliases, and the calls. -/
structure State where
  apis : String → Option Nat
  loaded : List (String × Nat)
  calls : Nat → Option Call

/-- What a call does next: `load` comes back with the system's verdict on the library. -/
inductive Action
  | call (id : Nat) (provider : String)
  | read (id : Nat)
  | load (id : Nat) (outcome : Except String Unit)
  | write (id : Nat)

namespace State

def empty : State := ⟨fun _ => none, [], fun _ => none⟩

def put (s : State) (id : Nat) (call : Call) : State :=
  { s with calls := Function.update s.calls id (some call) }

def add (s : State) (provider : String) : State :=
  { s with loaded := s.loaded ++ [(provider, s.loaded.length)] }

def insert (s : State) (provider : String) (api : Nat) : State :=
  { s with apis := Function.update s.apis provider (some api) }

end State

def notLoaded (ctx : SkfContext) (raw reason : String) : String :=
  "Failed to load library '" ++ expandEnvVars ctx.platform.env raw ++ "' (process architecture: " ++
    ctx.platform.arch ++ "): " ++ reason

/-- A step that is not a call's next one changes nothing. -/
def step (ctx : SkfContext) (s : State) : Action → State
  | .call id provider =>
    match s.calls id with
    | none => s.put id ⟨provider, .reading⟩
    | some _ => s
  | .read id =>
    match s.calls id with
    | some ⟨provider, .reading⟩ =>
      match s.apis provider with
      | some api => s.put id ⟨provider, .returned (.ok api)⟩
      -- The read lock is given back here, so that another call may miss as well.
      | none => s.put id ⟨provider, .loading⟩
    | _ => s
  | .load id outcome =>
    match s.calls id with
    | some ⟨provider, .loading⟩ =>
      match ctx.config.rawPath provider ctx.platform.os, outcome with
      | none, _ => s.put id ⟨provider, .returned (.error (ctx.notConfigured provider))⟩
      | some _, .ok () => (s.add provider).put id ⟨provider, .writing s.loaded.length⟩
      | some raw, .error reason =>
        s.put id ⟨provider, .returned (.error (notLoaded ctx raw reason))⟩
    | _ => s
  -- What is cached by then is overwritten, not looked at.
  | .write id =>
    match s.calls id with
    | some ⟨provider, .writing api⟩ =>
      (s.insert provider api).put id ⟨provider, .returned (.ok api)⟩
    | _ => s

inductive Moves (ctx : SkfContext) (s : State) : Action → State → Prop
  | call {id : Nat} {provider : String} (free : s.calls id = none) :
      Moves ctx s (.call id provider) (s.put id ⟨provider, .reading⟩)
  | hit {id : Nat} {provider : String} {api : Nat} (here : s.calls id = some ⟨provider, .reading⟩)
      (cached : s.apis provider = some api) :
      Moves ctx s (.read id) (s.put id ⟨provider, .returned (.ok api)⟩)
  | miss {id : Nat} {provider : String} (here : s.calls id = some ⟨provider, .reading⟩)
      (absent : s.apis provider = none) : Moves ctx s (.read id) (s.put id ⟨provider, .loading⟩)
  | loaded {id : Nat} {provider raw : String} (here : s.calls id = some ⟨provider, .loading⟩)
      (configured : ctx.config.rawPath provider ctx.platform.os = some raw) :
      Moves ctx s (.load id (.ok ())) ((s.add provider).put id ⟨provider, .writing s.loaded.length⟩)
  | unconfigured {id : Nat} {provider : String} {outcome : Except String Unit}
      (here : s.calls id = some ⟨provider, .loading⟩)
      (absent : ctx.config.rawPath provider ctx.platform.os = none) :
      Moves ctx s (.load id outcome)
        (s.put id ⟨provider, .returned (.error (ctx.notConfigured provider))⟩)
  | refused {id : Nat} {provider raw reason : String}
      (here : s.calls id = some ⟨provider, .loading⟩)
      (configured : ctx.config.rawPath provider ctx.platform.os = some raw) :
      Moves ctx s (.load id (.error reason))
        (s.put id ⟨provider, .returned (.error (notLoaded ctx raw reason))⟩)
  | wrote {id : Nat} {provider : String} {api : Nat}
      (here : s.calls id = some ⟨provider, .writing api⟩) :
      Moves ctx s (.write id) ((s.insert provider api).put id ⟨provider, .returned (.ok api)⟩)

theorem step_moves (ctx : SkfContext) (s : State) (action : Action) :
    step ctx s action = s ∨ Moves ctx s action (step ctx s action) := by
  -- An action that no call waits for leaves the state as it is.
  cases action with
  | call id provider =>
    simp only [step]
    split
    · next free => exact .inr (.call free)
    · exact .inl rfl
  | read id =>
    simp only [step]
    split
    · next provider here =>
      split
      · next api cached => exact .inr (.hit here cached)
      · next absent => exact .inr (.miss here absent)
    · exact .inl rfl
  | load id outcome =>
    simp only [step]
    split
    · next provider here =>
      split
      · next absent => exact .inr (.unconfigured here absent)
      · next raw configured => exact .inr (.loaded here configured)
      · next raw reason configured => exact .inr (.refused here configured)
    · exact .inl rfl
  | write id =>
    simp only [step]
    split
    · next provider api here => exact .inr (.wrote here)
    · exact .inl rfl

/-- The host's events of a call that has come to a phase, as the handlers' own `get_api` asks for
them. -/
inductive Follows (ctx : SkfContext) (provider : String) : Phase → List (Event Skf) → Prop
  | reading : Follows ctx provider .reading []
  | hit (api : Nat) :
      Follows ctx provider (.returned (.ok api)) [⟨.host (.readCache provider), true⟩]
  | loading : Follows ctx provider .loading [⟨.host (.readCache provider), false⟩]
  | unconfigured (absent : ctx.config.rawPath provider ctx.platform.os = none) :
      Follows ctx provider (.returned (.error (ctx.notConfigured provider)))
        [⟨.host (.readCache provider), false⟩]
  | refused {raw : String} (reason : String)
      (configured : ctx.config.rawPath provider ctx.platform.os = some raw) :
      Follows ctx provider (.returned (.error (notLoaded ctx raw reason)))
        [⟨.host (.readCache provider), false⟩,
          ⟨.host (.loadLibrary (expandEnvVars ctx.platform.env raw)), .error reason⟩]
  | writing {raw : String} (api : Nat) (configured : ctx.config.rawPath provider ctx.platform.os =
      some raw) :
      Follows ctx provider (.writing api)
        [⟨.host (.readCache provider), false⟩,
          ⟨.host (.loadLibrary (expandEnvVars ctx.platform.env raw)), .ok ()⟩]
  | wrote {raw : String} (api : Nat) (configured : ctx.config.rawPath provider ctx.platform.os =
      some raw) :
      Follows ctx provider (.returned (.ok api))
        [⟨.host (.readCache provider), false⟩,
          ⟨.host (.loadLibrary (expandEnvVars ctx.platform.env raw)), .ok ()⟩,
          ⟨.host (.writeCache provider), ()⟩]

theorem Follows.reaches {ctx : SkfContext} {provider : String} {phase : Phase}
    {events : List (Event Skf)} (follows : Follows ctx provider phase events) :
    ∃ rest, Reaches (ctx.getApi provider) events rest ∧
        ∀ result,
          phase = .returned result → rest = .done (result.map fun _ => ⟨provider, none⟩) := by
  -- One case for each phase of the call: what it has done is a prefix of the translated function.
  cases follows with
  | reading => exact ⟨_, .refl _, fun _ same => by cases same⟩
  | loading => exact ⟨_, .step _ (.refl _), fun _ same => by cases same⟩
  | hit api =>
    refine ⟨_, .step _ (.refl _), fun _ same => ?_⟩
    cases same
    rfl
  | unconfigured absent =>
    refine ⟨_, .step _ (.refl _), fun _ same => ?_⟩
    cases same
    dsimp only
    rw [absent]
    rfl
  | refused reason configured =>
    unfold SkfContext.getApi
    rw [configured]
    refine ⟨_, .step _ (.step _ (.refl _)), fun _ same => ?_⟩
    cases same
    rfl
  | writing api configured =>
    unfold SkfContext.getApi
    rw [configured]
    exact ⟨_, .step _ (.step _ (.refl _)), fun _ same => by cases same⟩
  | wrote api configured =>
    unfold SkfContext.getApi
    rw [configured]
    refine ⟨_, .step _ (.step _ (.step _ (.refl _))), fun _ same => ?_⟩
    cases same
    rfl

def Following (ctx : SkfContext) (s : State) : Prop :=
  ∀ id call, s.calls id = some call → ∃ events, Follows ctx call.provider call.phase events

theorem Following.put {ctx : SkfContext} {s : State} (following : Following ctx s) (id : Nat)
    {call : Call} {events : List (Event Skf)}
    (follows : Follows ctx call.provider call.phase events) :
    Following ctx (s.put id call) := by
  intro other call' there
  simp only [State.put, Function.update_apply] at there
  split at there
  · cases there
    exact ⟨events, follows⟩
  · exact following other call' there

theorem Following.moves {ctx : SkfContext} {s after : State} {action : Action}
    (following : Following ctx s) (moved : Moves ctx s action after) : Following ctx after := by
  cases moved with
  | call free => exact following.put _ .reading
  | hit here cached => exact following.put _ (.hit _)
  | miss here absent => exact following.put _ .loading
  | unconfigured here absent => exact following.put _ (.unconfigured absent)
  | refused here configured => exact following.put _ (.refused _ configured)
  | @loaded id provider raw here configured =>
    have before : Following ctx (s.add provider) := following
    exact before.put id (.writing s.loaded.length configured)
  | @wrote id provider api here =>
    have before : Following ctx (s.insert provider api) := following
    obtain ⟨events, follows⟩ := following id _ here
    cases follows with
    | writing api configured => exact before.put id (.wrote api configured)

/-- In every state of a run every call is a run of `get_api`. -/
theorem following_visited (ctx : SkfContext) (actions : List Action) :
    ∀ s ∈ visited (step ctx) .empty actions, Following ctx s := by
  have start : Following ctx .empty := by
    intro id call none
    cases none
  apply visited_invariant start
  intro s action following
  rcases step_moves ctx s action with same | moved
  · rw [same]
    exact following
  · exact following.moves moved

/-- Each library is loaded at most once, and calls that succeed have got the same instance of it. -/
structure Single (s : State) : Prop where
  once : ∀ provider, (s.loaded.map Prod.fst).count provider ≤ 1
  same : ∀ id other provider api api', s.calls id = some ⟨provider, .returned (.ok api)⟩ →
    s.calls other = some ⟨provider, .returned (.ok api')⟩ → api = api'

def Loads (ctx : SkfContext) (s : State) (action : Action) (provider : String) : Prop :=
  ∃ id, action = .load id (.ok ()) ∧ s.calls id = some ⟨provider, .loading⟩ ∧
    (ctx.config.rawPath provider ctx.platform.os).isSome

/-- No other call has loaded the library since this one has missed the cache: the cache is still
without it, and no call is between its load and its write. -/
def Undisturbed (ctx : SkfContext) (s : State) (action : Action) : Prop :=
  ∀ provider, Loads ctx s action provider →
    s.apis provider = none ∧ ∀ id api, s.calls id ≠ some ⟨provider, .writing api⟩

def Phase.api : Phase → Option Nat
  | .writing api => some api
  | .returned (.ok api) => some api
  | _ => none

structure Inv (s : State) : Prop where
  once : (s.loaded.map Prod.fst).Nodup
  cached : ∀ provider api, s.apis provider = some api → (provider, api) ∈ s.loaded
  held : ∀ id call api, s.calls id = some call → call.phase.api = some api →
    (call.provider, api) ∈ s.loaded
  known : ∀ provider api, (provider, api) ∈ s.loaded →
    s.apis provider = some api ∨ ∃ id, s.calls id = some ⟨provider, .writing api⟩

namespace Inv

variable {ctx : SkfContext} {s : State} {action : Action} {provider : String} {id : Nat}
  {call : Call}

theorem unique (inv : Inv s) {api api' : Nat} (one : (provider, api) ∈ s.loaded)
    (two : (provider, api') ∈ s.loaded) :
    api = api' := by
  have same := List.inj_on_of_nodup_map inv.once one two rfl
  exact congrArg Prod.snd same

theorem single (inv : Inv s) : Single s where
  once := List.nodup_iff_count_le_one.mp inv.once
  same id other provider api api' one two := by
    have first := inv.held id _ api one rfl
    have second := inv.held other _ api' two rfl
    exact inv.unique first second

theorem put (inv : Inv s)
    (holds : ∀ api, call.phase.api = some api → (call.provider, api) ∈ s.loaded)
    (idle : ∀ provider api, s.calls id ≠ some ⟨provider, .writing api⟩) : Inv (s.put id call) where
  once := inv.once
  cached := inv.cached
  held other call' api there instance_ := by
    simp only [State.put, Function.update_apply] at there
    split at there
    · cases there
      exact holds api instance_
    · exact inv.held other call' api there instance_
  known provider api member := by
    rcases inv.known provider api member with cached | ⟨other, writes⟩
    · exact .inl cached
    · have different : other ≠ id := by
        rintro rfl
        exact idle _ _ writes
      exact .inr ⟨other, (Function.update_of_ne different _ _).trans writes⟩

theorem absent (inv : Inv s) (uncached : s.apis provider = none)
    (unwritten : ∀ id api, s.calls id ≠ some ⟨provider, .writing api⟩) :
    provider ∉ s.loaded.map Prod.fst := by
  intro member
  obtain ⟨⟨name, api⟩, loaded, rfl⟩ := List.mem_map.mp member
  rcases inv.known name api loaded with cached | ⟨id, writes⟩
  · cases uncached.symm.trans cached
  · exact unwritten id api writes

theorem present (inv : Inv s)
    (disturbed : ¬(s.apis provider = none ∧ ∀ id api, s.calls id ≠ some ⟨provider, .writing api⟩)) :
    provider ∈ s.loaded.map Prod.fst := by
  have member {api : Nat} (loaded : (provider, api) ∈ s.loaded) :
      provider ∈ s.loaded.map Prod.fst :=
    List.mem_map.mpr ⟨_, loaded, rfl⟩
  cases found : s.apis provider with
  | some api => exact member (inv.cached provider api found)
  | none =>
    by_contra missing
    apply disturbed
    refine ⟨found, fun id api writes => missing ?_⟩
    exact member (inv.held id _ api writes rfl)

theorem add (inv : Inv s) (first : provider ∉ s.loaded.map Prod.fst)
    (here : s.calls id = some ⟨provider, .loading⟩) :
    Inv ((s.add provider).put id ⟨provider, .writing s.loaded.length⟩) where
  once := by
    simp only [State.put, State.add, List.map_append, List.map_cons, List.map_nil]
    rw [List.nodup_append_comm]
    exact List.nodup_cons.mpr ⟨first, inv.once⟩
  cached name api found := List.mem_append_left _ (inv.cached name api found)
  held other call' api there instance_ := by
    simp only [State.put, State.add, Function.update_apply] at there
    split at there
    · cases there
      cases instance_
      exact List.mem_append_right _ (List.mem_singleton_self _)
    · exact List.mem_append_left _ (inv.held other call' api there instance_)
  known name api member := by
    rcases List.mem_append.mp member with earlier | new
    · rcases inv.known name api earlier with cached | ⟨other, writes⟩
      · exact .inl cached
      · have different : other ≠ id := by
          rintro rfl
          cases here.symm.trans writes
        exact .inr ⟨other, (Function.update_of_ne different _ _).trans writes⟩
    · cases List.mem_singleton.mp new
      exact .inr ⟨id, Function.update_self _ _ _⟩

theorem insert (inv : Inv s) {api : Nat} (here : s.calls id = some ⟨provider, .writing api⟩) :
    Inv ((s.insert provider api).put id ⟨provider, .returned (.ok api)⟩) := by
  have loaded : (provider, api) ∈ s.loaded := inv.held id _ api here rfl
  refine ⟨inv.once, fun name other found => ?_, fun other call' found there instance_ =>
    ?_, fun name other member => ?_⟩
  · simp only [State.put, State.insert, Function.update_apply] at found
    split at found
    · next same =>
      cases found
      rwa [same]
    · exact inv.cached name other found
  · simp only [State.put, State.insert, Function.update_apply] at there
    split at there
    · cases there
      cases instance_
      exact loaded
    · exact inv.held other call' found there instance_
  · by_cases same : name = provider
    · subst same
      left
      rw [inv.unique member loaded]
      exact Function.update_self _ _ _
    · rcases inv.known name other member with cached | ⟨writer, writes⟩
      · exact .inl ((Function.update_of_ne same _ _).trans cached)
      · have different : writer ≠ id := by
          rintro rfl
          cases here.symm.trans writes
          exact same rfl
        exact .inr ⟨writer, (Function.update_of_ne different _ _).trans writes⟩

theorem moves (inv : Inv s) {after : State} (moved : Moves ctx s action after)
    (undisturbed : Undisturbed ctx s action) :
    Inv after := by
  cases moved with
  | call free =>
    refine inv.put (fun api none => ?_) fun _ _ writes => ?_
    · cases none
    · cases free.symm.trans writes
  | hit here cached =>
    refine inv.put (fun api instance_ => ?_) fun _ _ writes => ?_
    · cases instance_
      exact inv.cached _ _ cached
    · cases here.symm.trans writes
  | miss here =>
    refine inv.put (fun api none => ?_) fun _ _ writes => ?_
    · cases none
    · cases here.symm.trans writes
  | unconfigured here | refused here =>
    refine inv.put (fun api none => ?_) fun _ _ writes => ?_
    · cases none
    · cases here.symm.trans writes
  | @loaded id provider raw here configured =>
    have loads : Loads ctx s (.load id (.ok ())) provider :=
      ⟨id, rfl, here, Option.isSome_of_eq_some configured⟩
    obtain ⟨uncached, unwritten⟩ := undisturbed provider loads
    exact inv.add (inv.absent uncached unwritten) here
  | wrote here => exact inv.insert here

theorem step (inv : Inv s) (undisturbed : Undisturbed ctx s action) :
    Inv (GetApi.step ctx s action) := by
  rcases step_moves ctx s action with same | moved
  · rw [same]
    exact inv
  · exact inv.moves moved undisturbed

theorem lost (inv : Inv s) (disturbed : ¬Undisturbed ctx s action) :
    ¬Single (GetApi.step ctx s action) := by
  rw [Undisturbed] at disturbed
  push Not at disturbed
  obtain ⟨provider, ⟨id, rfl, here, configured⟩, found⟩ := disturbed
  obtain ⟨raw, configured⟩ := Option.isSome_iff_exists.mp configured
  have member : provider ∈ s.loaded.map Prod.fst := by
    apply inv.present
    rintro ⟨uncached, unwritten⟩
    obtain ⟨other, api, writes⟩ := found uncached
    exact unwritten other api writes
  intro single
  have twice := single.once provider
  have positive := List.one_le_count_iff.mpr member
  simp only [GetApi.step, here, configured, State.put, State.add, List.map_append, List.map_cons,
    List.map_nil, List.count_append, List.count_cons_self, List.count_nil] at twice
  omega

end Inv

namespace Racing

def ctx : SkfContext := .serving []

def actions : List Action :=
  [.call 0 "3000GM", .call 1 "3000GM", .read 0, .read 1, .load 0 (.ok ()), .load 1 (.ok ()),
    .write 0, .write 1]

end Racing

/-- Over all interleavings of calls: the library of each alias is loaded at most once and successful
calls return one instance of it, throughout exactly the runs in which no load finishes after another
one for the alias has. -/
theorem get_api_single_iff (ctx : SkfContext) (actions : List Action) :
    (∀ s ∈ visited (step ctx) .empty actions, Single s) ↔
      Along (step ctx) (Undisturbed ctx) .empty actions := by
  have empty : Inv .empty := by
    refine ⟨List.nodup_nil, ?_, ?_, ?_⟩
    · intro provider api none
      cases none
    · intro id call api none
      cases none
    · intro provider api none
      cases none
  exact visited_iff_of_invariant empty (fun s action inv undisturbed => inv.step undisturbed)
    (fun s inv => inv.single)
    (fun s action inv disturbed => inv.lost disturbed) actions

/-- Two concurrent first calls load the library twice, and return different instances. -/
theorem two_misses_two_instances : ∃ s ∈ visited (step Racing.ctx) .empty Racing.actions,
    s.calls 0 = some ⟨"3000GM", .returned (.ok 0)⟩ ∧
      s.calls 1 = some ⟨"3000GM", .returned (.ok 1)⟩ ∧ ¬Single s := by
  have first : (Racing.actions.foldl (step Racing.ctx) .empty).calls 0 =
      some ⟨"3000GM", .returned (.ok 0)⟩ := rfl
  have second : (Racing.actions.foldl (step Racing.ctx) .empty).calls 1 =
      some ⟨"3000GM", .returned (.ok 1)⟩ := rfl
  refine ⟨_, last_mem_visited Racing.actions, first, second, fun single => ?_⟩
  cases single.same 0 1 _ 0 1 first second

end SkfService.GetApi
