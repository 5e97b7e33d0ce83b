import SkfService.Dispatch.Context
import SkfService.Interaction.Asks
import Mathlib.Data.List.Perm.Basic
import Mathlib.Data.List.Nodup

/-! Which library path an alias gets, when the maps of a configuration are walked in any order. -/

set_option autoImplicit false

namespace SkfService

open Text Interaction Program Handler

section lookup

variable {K V : Type} [BEq K] [LawfulBEq K] {entries others : List (K × V)} {key : K} {value : V}

theorem mem_of_lookup (found : entries.lookup key = some value) : (key, value) ∈ entries := by
  obtain ⟨before, after, rfl, -⟩ := List.lookup_eq_some_iff.mp found
  exact List.mem_append_right _ List.mem_cons_self

theorem lookup_of_mem (keyed : (entries.map Prod.fst).Nodup) (member : (key, value) ∈ entries) :
    entries.lookup key = some value := by
  induction entries with
  | nil => cases member
  | cons entry entries ih =>
    rw [List.map_cons, List.nodup_cons] at keyed
    rcases List.mem_cons.mp member with rfl | later
    · exact List.lookup_cons_self
    · have differs : (key == entry.1) = false := by
        rw [beq_eq_false_iff_ne]
        intro same
        exact keyed.1 (List.mem_map.mpr ⟨_, later, same⟩)
      rw [List.lookup_cons, differs]
      exact ih keyed.2 later

theorem lookup_perm (keyed : (entries.map Prod.fst).Nodup) (same : others.Perm entries) :
    others.lookup key = entries.lookup key := by
  have keyedOther : (others.map Prod.fst).Nodup := (same.map Prod.fst).nodup_iff.mpr keyed
  cases found : entries.lookup key with
  | some value => exact lookup_of_mem keyedOther (same.mem_iff.mpr (mem_of_lookup found))
  | none =>
    cases walked : others.lookup key with
    | none => rfl
    | some value =>
      rw [lookup_of_mem keyed (same.mem_iff.mp (mem_of_lookup walked))] at found
      cases found

theorem lookup_replaced [DecidableEq K] (other : K) :
    (entries.map fun entry => if entry.1 = key then (key, value) else entry).lookup other =
      if other = key then (entries.lookup key).map fun _ => value else entries.lookup other := by
  induction entries with
  | nil => simp
  | cons entry entries ih =>
    obtain ⟨name, held⟩ := entry
    rw [List.map_cons]
    by_cases replaced : name = key
    · rw [if_pos replaced, List.lookup_cons, List.lookup_cons, List.lookup_cons, ih, replaced]
      by_cases asked : other = key
      · simp [asked]
      · simp [asked, beq_eq_false_iff_ne.mpr asked]
    · rw [if_neg replaced, List.lookup_cons, List.lookup_cons, List.lookup_cons, ih]
      by_cases asked : other = key
      · simp [asked, beq_eq_false_iff_ne.mpr (Ne.symm replaced)]
      · simp [asked]

end lookup

namespace SkfConfig

structure Keyed (config : SkfConfig) : Prop where
  names : (config.libs.map Prod.fst).Nodup
  platforms : ∀ name platforms, config.libs.lookup name = some platforms →
    (platforms.map Prod.fst).Nodup

/-- The same maps, walked in another order. -/
structure Reorders (config other : SkfConfig) : Prop where
  default : other.default = config.default
  vendor : other.vendor.Perm config.vendor
  names : (other.libs.map Prod.fst).Perm (config.libs.map Prod.fst)
  platforms : ∀ name, Option.Rel List.Perm (other.libs.lookup name) (config.libs.lookup name)

theorem Reorders.refl (config : SkfConfig) : config.Reorders config := by
  refine ⟨rfl, .refl _, .refl _, fun name => ?_⟩
  cases config.libs.lookup name with
  | none => exact .none
  | some platforms => exact .some (.refl _)

def Matching (platforms : List (String × String)) (os path : String) : Prop :=
  ∃ key, (key, path) ∈ platforms ∧ eqIgnoreAsciiCase key os = true

/-- The alias has the system's exact key, or all that match it in another letter case mean one path. -/
def Settled (config : SkfConfig) (platform : Platform) (provider : String) : Prop :=
  ∀ platforms, config.libs.lookup provider = some platforms →
    (platforms.lookup platform.os).isSome ∨
    ∀ path other, Matching platforms platform.os path → Matching platforms platform.os other →
      expandEnvVars platform.env path = expandEnvVars platform.env other

end SkfConfig

def SkfContext.Loads (ctx : SkfContext) (provider path : String) : Prop :=
  ∃ trace rest, Reaches (ctx.getApi provider) trace rest ∧ ∃ loaded,
    ⟨Op.host (.loadLibrary path), loaded⟩ ∈ trace

section lookups

variable {ctx : SkfContext} {platform : Platform} {config other : SkfConfig}
  {provider path : String} {platforms walked : List (String × String)} {os : String}

theorem resolveLibPath_ok_iff : resolveLibPath platform config provider = .ok path ↔
    (config.rawPath provider platform.os).map (expandEnvVars platform.env) = some path := by
  unfold resolveLibPath
  cases config.rawPath provider platform.os with
  | some raw => simp
  | none => simp

theorem asks_getApi :
    (ctx.getApi provider).Asks fun op : Op => ∀ path, op = .host (.loadLibrary path) →
    (ctx.config.rawPath provider ctx.platform.os).map (expandEnvVars ctx.platform.env) =
      some path := by
  unfold SkfContext.getApi
  apply asks_call
  · intro path other
    cases other
  intro cached
  -- Only a library that is not cached is loaded, from the path that the configuration gives.
  cases cached with
  | true => trivial
  | false =>
    dsimp only
    cases ctx.config.rawPath provider ctx.platform.os with
    | none => trivial
    | some raw =>
      apply asks_call
      · intro path same
        cases same
        rfl
      intro loaded
      cases loaded with
      | error reason => trivial
      | ok done =>
        apply asks_call
        · intro path other
          cases other
        · intro written
          trivial

theorem loads_iff : ctx.Loads provider path ↔
    (ctx.config.rawPath provider ctx.platform.os).map (expandEnvVars ctx.platform.env) =
      some path := by
  constructor
  · rintro ⟨trace, rest, ran, loaded, asked⟩
    exact asks_getApi.of_reaches ran _ asked path rfl
  · intro found
    obtain ⟨raw, configured, rfl⟩ := Option.map_eq_some_iff.mp found
    have ran : Reaches (ctx.getApi provider) [⟨.host (.readCache provider), false⟩,
        ⟨.host (.loadLibrary (expandEnvVars ctx.platform.env raw)), .ok ()⟩] (do
          host (.writeCache provider)
          return .ok ⟨provider, none⟩) := by
      unfold SkfContext.getApi
      apply Reaches.step
      dsimp only
      rw [configured]
      apply Reaches.step
      exact .refl _
    exact ⟨_, _, ran, .ok (), List.mem_cons_of_mem _ (List.mem_singleton_self _)⟩

def firstMatching (platforms : List (String × String)) (os : String) : Option String :=
  (platforms.find? fun entry => eqIgnoreAsciiCase entry.1 os).map Prod.snd

theorem rawPath_eq : config.rawPath provider os =
    (config.libs.lookup provider).bind fun platforms =>
      (platforms.lookup os).or (firstMatching platforms os) := rfl

theorem matching_of_first (first : firstMatching platforms os = some path) :
    SkfConfig.Matching platforms os path := by
  obtain ⟨entry, found, rfl⟩ := Option.map_eq_some_iff.mp first
  have matched := List.find?_some found
  exact ⟨entry.1, List.mem_of_find?_eq_some found, matched⟩

theorem first_of_matching (matching : SkfConfig.Matching platforms os path) :
    ∃ other, firstMatching platforms os = some other := by
  obtain ⟨key, member, matched⟩ := matching
  have found : (platforms.find? fun entry => eqIgnoreAsciiCase entry.1 os).isSome :=
    List.find?_isSome.mpr ⟨_, member, matched⟩
  obtain ⟨entry, first⟩ := Option.isSome_iff_exists.mp found
  exact ⟨entry.2, by rw [firstMatching, first]; rfl⟩

theorem matching_perm (same : walked.Perm platforms) :
    SkfConfig.Matching walked os path ↔ SkfConfig.Matching platforms os path := by
  simp only [SkfConfig.Matching, same.mem_iff]

/-- Where all matching keys mean one path, the order decides nothing. -/
theorem firstMatching_perm {expand : String → String} (same : walked.Perm platforms)
    (one : ∀ path other, SkfConfig.Matching platforms os path →
      SkfConfig.Matching platforms os other → expand path = expand other) :
    (firstMatching walked os).map expand = (firstMatching platforms os).map expand := by
  cases here : firstMatching walked os with
  | some path =>
    have matching := (matching_perm same).mp (matching_of_first here)
    obtain ⟨other, there⟩ := first_of_matching matching
    rw [there]
    exact congrArg some (one path other matching (matching_of_first there))
  | none =>
    cases there : firstMatching platforms os with
    | none => rfl
    | some other =>
      obtain ⟨path, found⟩ := first_of_matching ((matching_perm same).mpr (matching_of_first there))
      rw [here] at found
      cases found

theorem rawPath_reordered (keyed : config.Keyed) (settled : config.Settled platform provider)
    (reorders : config.Reorders other) :
    (other.rawPath provider platform.os).map (expandEnvVars platform.env) =
      (config.rawPath provider platform.os).map (expandEnvVars platform.env) := by
  have related := reorders.platforms provider
  rw [rawPath_eq, rawPath_eq]
  cases found : config.libs.lookup provider with
  | none =>
    rw [found] at related
    cases walked : other.libs.lookup provider with
    | none => rfl
    | some walked => simp [walked] at related
  | some platforms =>
    rw [found] at related
    cases moved : other.libs.lookup provider with
    | none => simp [moved] at related
    | some walked =>
      rw [moved, Option.rel_some_some] at related
      rw [Option.bind_some, Option.bind_some,
        lookup_perm (keyed.platforms provider platforms found) related]
      -- An exact match does not depend on the order, nor does a single loose one.
      rcases settled platforms found with exact | one
      · obtain ⟨path, exact⟩ := Option.isSome_iff_exists.mp exact
        rw [exact, Option.some_or, Option.some_or]
      · cases platforms.lookup platform.os with
        | some path => rfl
        | none =>
          rw [Option.none_or, Option.none_or]
          exact firstMatching_perm related one

theorem exists_reordered (keyed : config.Keyed)
    (found : config.libs.lookup provider = some platforms) (inexact : platforms.lookup os = none)
    (matching : SkfConfig.Matching platforms os path) :
    ∃ other : SkfConfig, config.Reorders other ∧ other.rawPath provider os = some path := by
  obtain ⟨key, member, matched⟩ := matching
  -- The matching entry is put in front, where the walk over the map meets it first.
  have walked : ((key, path) :: platforms.erase (key, path)).Perm platforms :=
    (List.perm_cons_erase member).symm
  have elsewhere (name : String) :
      (config.libs.map fun entry =>
        if entry.1 = provider then (provider, (key, path) :: platforms.erase (key, path))
        else entry).lookup name =
      if name = provider then some ((key, path) :: platforms.erase (key, path))
      else config.libs.lookup name := by
    rw [lookup_replaced, found]
    rfl
  refine ⟨{ config with libs := config.libs.map fun entry =>
    if entry.1 = provider then (provider, (key, path) :: platforms.erase (key, path))
    else entry }, ?_, ?_⟩
  · refine ⟨rfl, .refl _, ?_, fun name => ?_⟩
    · have names : (config.libs.map fun entry => if entry.1 = provider then
          (provider, (key, path) :: platforms.erase (key, path)) else entry).map Prod.fst =
            config.libs.map Prod.fst := by
        rw [List.map_map]
        refine List.map_congr_left fun entry _ => ?_
        rw [Function.comp_apply]
        split
        · next same => exact same.symm
        · rfl
      rw [names]
    · rw [elsewhere]
      split
      · next same =>
        subst same
        rw [found]
        exact .some walked
      · cases config.libs.lookup name with
        | none => exact .none
        | some others => exact .some (.refl _)
  · have first : firstMatching ((key, path) :: platforms.erase (key, path)) os = some path := by
      unfold firstMatching
      rw [List.find?_cons_of_pos]
      · rfl
      · exact matched
    rw [rawPath_eq, elsewhere, if_pos rfl, Option.bind_some,
      lookup_perm (keyed.platforms provider platforms found) walked, inexact, Option.none_or, first]

/-- Whatever order the maps are walked in, `resolve_lib_path` in one run and `get_api` in another
one mean the same path, just when the alias is settled for the system. -/
theorem lib_path_order_iff (keyed : config.Keyed) :
    (∀ first second, config.Reorders first → config.Reorders second → ∀ path,
      resolveLibPath platform first provider = .ok path ↔
        SkfContext.Loads ⟨second, platform⟩ provider path) ↔
      config.Settled platform provider := by
  simp only [resolveLibPath_ok_iff, loads_iff]
  constructor
  · intro agree platforms found
    cases inexact : platforms.lookup platform.os with
    | some path => exact .inl rfl
    | none =>
      refine .inr fun path other matching matchingOther => ?_
      obtain ⟨first, reorders, walked⟩ := exists_reordered keyed found inexact matching
      obtain ⟨second, reordersOther, walkedOther⟩ :=
        exists_reordered keyed found inexact matchingOther
      have same := (agree first second reorders reordersOther _).mp (congrArg _ walked)
      rw [walkedOther] at same
      exact (Option.some.inj same).symm
  · intro settled first second reorders reordersOther path
    rw [rawPath_reordered keyed settled reorders, rawPath_reordered keyed settled reordersOther]

end lookups

namespace LetterCase

/-- Two keys for one system, spelled in different letter case. -/
def config : SkfConfig :=
  { default := "GM3000", vendor := [],
    libs := [("GM3000", [("Linux", "a.so"), ("LINUX", "b.so")])] }

def walkedBack : SkfConfig :=
  { default := "GM3000", vendor := [],
    libs := [("GM3000", [("LINUX", "b.so"), ("Linux", "a.so")])] }

theorem reorders : config.Reorders walkedBack := by
  refine ⟨rfl, .refl _, .refl _, fun name => ?_⟩
  change Option.Rel List.Perm
    (List.lookup name [("GM3000", [("LINUX", "b.so"), ("Linux", "a.so")])])
    (List.lookup name [("GM3000", [("Linux", "a.so"), ("LINUX", "b.so")])])
  rw [List.lookup_cons, List.lookup_cons]
  cases name == "GM3000" with
  | true => exact .some (.swap _ _ _)
  | false => exact .none

end LetterCase

/-- One process loads `a.so`, another one `b.so`. -/
theorem lib_path_depends_on_order :
    ¬∀ first second, LetterCase.config.Reorders first → LetterCase.config.Reorders second → ∀ path,
      resolveLibPath (SkfContext.serving []).platform first "GM3000" = .ok path ↔
        SkfContext.Loads ⟨second, (SkfContext.serving []).platform⟩ "GM3000" path := by
  intro agree
  have same : LetterCase.config.Reorders LetterCase.config :=
    SkfConfig.Reorders.refl _
  have loaded := (agree _ _ same LetterCase.reorders "a.so").mp rfl
  rw [loads_iff] at loaded
  exact absurd loaded (by decide)

theorem lib_path_order_serving : (SkfContext.serving []).config.Keyed ∧
    ∀ first second, (SkfContext.serving []).config.Reorders first →
      (SkfContext.serving []).config.Reorders second →
      ∀ path, resolveLibPath (SkfContext.serving []).platform first "GM3000" = .ok path ↔
        SkfContext.Loads ⟨second, (SkfContext.serving []).platform⟩ "GM3000" path := by
  have keyed : (SkfContext.serving []).config.Keyed := by
    refine ⟨by decide, fun name platforms found => ?_⟩
    have member := mem_of_lookup found
    rcases List.mem_pair.mp member with same | same
    · cases same
      decide
    · cases same
      decide
  refine ⟨keyed, (lib_path_order_iff keyed).mpr ?_⟩
  intro platforms found
  cases found
  exact .inl rfl

end SkfService
