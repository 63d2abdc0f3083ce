import ModelNumber.Proofs.Library
import ModelNumber.Proofs.OrderedMap

/-
  The cache of loaded configurations cannot be observed, but
  for the identity of what is returned: whatever was loaded
  before, a load comes to what it comes to on the empty cache.
  What the cache has under a key was entered by the latest
  load that read the shipped configuration with that key.

  Main declarations:
    * `Library.Loads` and `Library.loads_iff`
    * `Cache.Mirrors`
    * `Library.Entered` and
      `Library.IsSound.get?_loadAll_iff`
    * `Library.IsTransparentAfter`
    * `Library.isTransparentAfter_of_isSound`
-/

namespace ModelNumber

variable {lib : Library} {key : String} {config : Configuration}
variable {r q : Request} {cache later : Cache}
variable {answer : Except Fault Loaded}
variable {loaded : Loaded}
variable {rs : List Request}

namespace Library

------------------------------------------------------------
-- Building
------------------------------------------------------------

/-
  The configurations that come with a library have no problems.
-/
def IsSound (lib : Library) : Prop :=
  ∀ key config,
    lib.find? key = some config → config.check = .ok []

/- The configurations of the two series have no problems. -/
theorem isSound_standard : standard.IsSound := by
  intro key config hFind
  rcases find?_standard_cases hFind with ⟨_, rfl⟩ | ⟨_, rfl⟩
  · exact isReady_rn.check
  · exact isReady_rq.check

/- What passes the check is returned as it is. -/
theorem eq_of_checked
    {given : Configuration}
    (h : checked given = .ok config) :
    given = config := by
  rcases Outcome.bind_eq_ok_iff.mp h with ⟨problems, _, hReturn⟩
  split at hReturn
  · exact Except.ok.inj hReturn
  · cases hReturn

/- What is built from the library comes with it. -/
theorem find?_of_build
    (hSource : r.source = .shipped)
    (hBuild : lib.build key r = .ok config) :
    lib.find? key = some config := by
  rcases Outcome.bind_eq_ok_iff.mp hBuild with
    ⟨given, hFetch, hChecked⟩
  have hGiven : given = config := by
    split at hChecked
    · exact eq_of_checked hChecked
    · exact Except.ok.inj hChecked
  rw [hSource, fetch] at hFetch
  split at hFetch
  · rename_i found hFind
    cases hFetch
    rw [hFind, hGiven]
  · cases hFetch

/- A shipped configuration can always be built. -/
theorem IsSound.build_ne_error
    (hSound : lib.IsSound)
    (hFind : lib.find? key = some config)
    (hSource : r.source = .shipped)
    (fault : Fault) :
    lib.build key r ≠ .error fault := by
  intro hBuild
  rw [build_eq_ok hFind (hSound key config hFind) hSource]
    at hBuild
  cases hBuild

------------------------------------------------------------
-- Loading
------------------------------------------------------------

/- A request that is not answered from a cache. -/
def Misses
    (r : Request)
    (cache : Cache) : Prop :=
  r.source = .shipped → r.forceReload = false →
    cache.loaded.get? (Text.lower r.key) = none

/-
  What a load can come to, and the cache after it: what is in
  the cache is returned; or the configuration cannot be built;
  or it is built from the library and enters the cache; or it
  is built from elsewhere.
-/
inductive Loads
    (lib : Library)
    (r : Request)
    (cache : Cache) : Except Fault Loaded → Cache → Prop
| again
    {loaded : Loaded}
    (hSource : r.source = .shipped)
    (hForce : r.forceReload = false)
    (hGet :
      cache.loaded.get? (Text.lower r.key) = some loaded) :
    Loads lib r cache (.ok loaded) cache
| refused
    {fault : Fault}
    (hMisses : Misses r cache)
    (hBuild : lib.build (Text.lower r.key) r = .error fault) :
    Loads lib r cache (.error fault) cache
| entered
    {config : Configuration}
    (hSource : r.source = .shipped)
    (hMisses : Misses r cache)
    (hBuild : lib.build (Text.lower r.key) r = .ok config) :
    Loads lib r cache (.ok ⟨config, cache.built⟩)
      ⟨cache.loaded.insert (Text.lower r.key)
          ⟨config, cache.built⟩, cache.built + 1⟩
| passed
    {config : Configuration}
    (hSource : r.source ≠ .shipped)
    (hBuild : lib.build (Text.lower r.key) r = .ok config) :
    Loads lib r cache (.ok ⟨config, cache.built⟩)
      ⟨cache.loaded, cache.built + 1⟩

/- A request from elsewhere is not answered from a cache. -/
theorem misses_of_source_ne
    (hSource : r.source ≠ .shipped)
    (cache : Cache) :
    Misses r cache := by
  intro hShipped
  exact absurd hShipped hSource

/- A request that misses the cache builds a configuration. -/
theorem load_of_misses (hMisses : Misses r cache) :
    lib.load r cache =
      match lib.build (Text.lower r.key) r with
      | .error fault => (.error fault, cache)
      | .ok config =>
          (.ok ⟨config, cache.built⟩,
            ⟨if r.source = .shipped then
                cache.loaded.insert (Text.lower r.key)
                  ⟨config, cache.built⟩
              else
                cache.loaded,
              cache.built + 1⟩) := by
  have hNone :
      (if r.source = .shipped && !r.forceReload then
        cache.loaded.get? (Text.lower r.key)
      else
        none) = none := by
    split
    · rename_i hTest
      simp only [Bool.and_eq_true, decide_eq_true_eq,
        Bool.not_eq_true'] at hTest
      exact hMisses hTest.1 hTest.2
    · rfl
  cases hBuild : lib.build (Text.lower r.key) r with
  | error fault => simp only [load, hNone, hBuild]
  | ok config => simp only [load, hNone, hBuild]

/- A load comes to just what it can come to. -/
theorem loads_iff :
    lib.Loads r cache answer later ↔
      lib.load r cache = (answer, later) := by
  constructor
  · intro h
    cases h with
    | again hSource hForce hGet =>
        simp [load, hSource, hForce, hGet]
    | refused hMisses hBuild =>
        rw [load_of_misses hMisses, hBuild]
    | entered hSource hMisses hBuild =>
        rw [load_of_misses hMisses, hBuild]
        simp only [hSource, if_true]
    | passed hSource hBuild =>
        rw [load_of_misses (misses_of_source_ne hSource cache),
          hBuild]
        simp only [hSource, if_false]
  · intro h
    by_cases hMisses : Misses r cache
    · rw [load_of_misses hMisses] at h
      cases hBuild : lib.build (Text.lower r.key) r with
      | error fault =>
          rw [hBuild] at h
          cases h
          exact .refused hMisses hBuild
      | ok config =>
          rw [hBuild] at h
          by_cases hSource : r.source = .shipped
          · simp only [hSource, if_true] at h
            cases h
            exact .entered hSource hMisses hBuild
          · simp only [hSource, if_false] at h
            cases h
            exact .passed hSource hBuild
    · simp only [Misses, not_forall] at hMisses
      rcases hMisses with ⟨hSource, hForce, hSome⟩
      rcases Option.ne_none_iff_exists'.mp hSome with
        ⟨loaded, hGet⟩
      have hLoad : lib.load r cache = (.ok loaded, cache) := by
        simp [load, hSource, hForce, hGet]
      rw [hLoad] at h
      cases h
      exact .again hSource hForce hGet

/- A load whose outcome is known has come to it. -/
theorem loads_load
    (lib : Library)
    (r : Request)
    (cache : Cache) :
    lib.Loads r cache (lib.load r cache).1
      (lib.load r cache).2 :=
  loads_iff.mpr rfl

end Library

------------------------------------------------------------
-- Mirrors of a library
------------------------------------------------------------

/-
  A cache that has, under keys of a library, configurations
  that come with it, each with the serial number of an earlier
  build.
-/
structure Cache.Mirrors
    (cache : Cache)
    (lib : Library) : Prop where
  find? : ∀ key loaded,
    cache.loaded.get? key = some loaded →
      lib.find? key = some loaded.config
  serial_lt : ∀ key loaded,
    cache.loaded.get? key = some loaded →
      loaded.serial < cache.built

namespace Library

/- The empty cache has nothing that could be wrong. -/
theorem mirrors_empty (lib : Library) : (∅ : Cache).Mirrors lib where
  find? _ _ hGet := by
    cases hGet
  serial_lt _ _ hGet := by
    cases hGet

/- Every load leaves a mirror of the library. -/
theorem mirrors_of_loads
    (hCache : cache.Mirrors lib)
    (hLoads : lib.Loads r cache answer later) :
    later.Mirrors lib := by
  cases hLoads with
  | again => exact hCache
  | refused => exact hCache
  | @entered config hSource _ hBuild =>
      constructor
      · intro key loaded hGet
        simp only [OrderedMap.get?_insert] at hGet
        split at hGet
        · rename_i hKey
          cases hGet
          rw [← eq_of_beq hKey]
          exact find?_of_build hSource hBuild
        · exact hCache.find? key loaded hGet
      · intro key loaded hGet
        simp only [OrderedMap.get?_insert] at hGet
        split at hGet
        · cases hGet
          exact Nat.lt_succ_self _
        · exact
            Nat.lt_succ_of_lt (hCache.serial_lt key loaded hGet)
  | passed =>
      constructor
      · exact hCache.find?
      · intro key loaded hGet
        exact
          Nat.lt_succ_of_lt (hCache.serial_lt key loaded hGet)

/- The cache after one more load. -/
theorem loadAll_concat
    (lib : Library)
    (rs : List Request)
    (r : Request) :
    lib.loadAll (rs ++ [r]) = (lib.load r (lib.loadAll rs)).2 :=
  List.foldl_concat ..

/- Whatever was loaded, the cache mirrors the library. -/
theorem mirrors_loadAll
    (lib : Library)
    (rs : List Request) :
    (lib.loadAll rs).Mirrors lib := by
  induction rs using List.reverseRecOn with
  | nil => exact mirrors_empty lib
  | append_singleton rs r ih =>
      rw [loadAll_concat]
      exact mirrors_of_loads ih (loads_load lib r _)

/-
  With a mirror of a sound library for its cache, a load
  returns what is built for the request alone.
-/
theorem IsSound.map_config_of_loads
    (hSound : lib.IsSound)
    (hCache : cache.Mirrors lib)
    (hLoads : lib.Loads r cache answer later) :
    answer.map Loaded.config =
      lib.build (Text.lower r.key) r := by
  cases hLoads with
  | again hSource _ hGet =>
      have hFind := hCache.find? _ _ hGet
      have hCheck := hSound _ _ hFind
      exact (build_eq_ok hFind hCheck hSource).symm
  | refused _ hBuild => exact hBuild.symm
  | entered _ _ hBuild => exact hBuild.symm
  | passed _ hBuild => exact hBuild.symm

------------------------------------------------------------
-- Latest loads
------------------------------------------------------------

/- A request that does not force a key to be reloaded. -/
def Spares
    (r : Request)
    (key : String) : Prop :=
  r.source = .shipped → Text.lower r.key = key →
    r.forceReload = false

/-
  With this cache, a request enters a configuration under a
  key: it reads the shipped configuration with that key and
  returns it under a serial number that no build had.
-/
structure Enters
    (lib : Library)
    (r : Request)
    (cache : Cache)
    (key : String)
    (loaded : Loaded) : Prop where
  isShipped : r.source = .shipped
  lower_key : Text.lower r.key = key
  find? : lib.find? key = some loaded.config
  returned : (lib.load r cache).1 = .ok loaded
  fresh : loaded.serial = cache.built

/-
  The latest of several requests that enters a configuration
  under a key enters this one: none of those after it forces
  that key to be reloaded.
-/
def Entered
    (lib : Library)
    (rs : List Request)
    (key : String)
    (loaded : Loaded) : Prop :=
  ∃ before r after,
    rs = before ++ r :: after ∧
      lib.Enters r (lib.loadAll before) key loaded ∧
        ∀ q ∈ after, Spares q key

/- Without requests nothing was entered. -/
theorem not_entered_nil : ¬lib.Entered [] key loaded := by
  rintro ⟨before, r, after, hNil, _⟩
  cases before with
  | nil => cases hNil
  | cons => cases hNil

/-
  Of several requests, the last one enters a configuration, or
  it spares what was entered before.
-/
theorem entered_concat_iff :
    lib.Entered (rs ++ [q]) key loaded ↔
      lib.Enters q (lib.loadAll rs) key loaded ∨
        Spares q key ∧ lib.Entered rs key loaded := by
  constructor
  · rintro ⟨before, r, after, hSplit, hEnters, hAfter⟩
    rcases List.eq_nil_or_concat after with rfl | ⟨between, p, rfl⟩
    · left
      rcases List.append_inj' hSplit rfl with ⟨rfl, hLast⟩
      cases hLast
      exact hEnters
    · right
      rw [List.concat_eq_append, ← List.cons_append,
        ← List.append_assoc] at hSplit
      rcases List.append_inj' hSplit rfl with ⟨rfl, hLast⟩
      cases hLast
      refine ⟨?_, before, r, between, rfl, hEnters, ?_⟩
      · exact hAfter q (by simp)
      · intro p hp
        exact hAfter p (by simp [hp])
  · rintro (hEnters | ⟨hSpares, before, r, after, rfl, hEnters, hAfter⟩)
    · exact ⟨rs, q, [], rfl, hEnters, by simp⟩
    · refine ⟨before, r, after ++ [q], by simp, hEnters, ?_⟩
      intro p hp
      rcases List.mem_append.mp hp with hMem | hMem
      · exact hAfter p hMem
      · rw [List.mem_singleton.mp hMem]
        exact hSpares

/- What a load enters is in the cache after it. -/
theorem Enters.get?_of_loads
    (hEnters : lib.Enters r cache key loaded)
    (hCache : cache.Mirrors lib)
    (hLoads : lib.Loads r cache answer later) :
    later.loaded.get? key = some loaded := by
  have hReturned := hEnters.returned
  rw [loads_iff.mp hLoads] at hReturned
  cases hLoads with
  | again _ _ hGet =>
      -- What was kept has the number of an earlier build.
      cases hReturned
      have hEarlier := hCache.serial_lt _ _ hGet
      rw [hEnters.fresh] at hEarlier
      exact absurd hEarlier (Nat.lt_irrefl _)
  | refused => cases hReturned
  | entered =>
      cases hReturned
      rw [← hEnters.lower_key]
      exact OrderedMap.get?_insert_self _ _ _
  | passed hSource => exact absurd hEnters.isShipped hSource

/- What a load spares is in the cache after it. -/
theorem Spares.get?_of_loads
    (hSpares : Spares r key)
    (hGet : cache.loaded.get? key = some loaded)
    (hLoads : lib.Loads r cache answer later) :
    later.loaded.get? key = some loaded := by
  cases hLoads with
  | again => exact hGet
  | refused => exact hGet
  | entered hSource hMisses =>
      by_cases hKey : Text.lower r.key = key
      · have hNone := hMisses hSource (hSpares hSource hKey)
        rw [hKey, hGet] at hNone
        cases hNone
      · rw [OrderedMap.get?_insert_of_ne _
          (beq_eq_false_iff_ne.mpr hKey)]
        exact hGet
  | passed => exact hGet

/-
  What is in the cache of a sound library after a load was
  entered by it, or was there before and is spared.
-/
theorem IsSound.enters_or_spares
    (hSound : lib.IsSound)
    (hCache : cache.Mirrors lib)
    (hLoads : lib.Loads r cache answer later)
    (hGet : later.loaded.get? key = some loaded) :
    lib.Enters r cache key loaded ∨
      Spares r key ∧ cache.loaded.get? key = some loaded := by
  have hLoad := loads_iff.mp hLoads
  cases hLoads with
  | again _ hForce => exact .inr ⟨fun _ _ => hForce, hGet⟩
  | refused _ hBuild =>
      refine .inr ⟨?_, hGet⟩
      intro hSource hKey
      rw [hKey] at hBuild
      exact
        absurd hBuild
          (hSound.build_ne_error (hCache.find? _ _ hGet)
            hSource _)
  | entered hSource hMisses hBuild =>
      by_cases hKey : Text.lower r.key = key
      · left
        simp only [hKey, OrderedMap.get?_insert_self,
          Option.some.injEq] at hGet
        subst hGet
        exact
          { isShipped := hSource
            lower_key := hKey
            find? := hKey ▸ find?_of_build hSource hBuild
            returned := by rw [hLoad]
            fresh := rfl }
      · right
        simp only [OrderedMap.get?_insert_of_ne _
          (beq_eq_false_iff_ne.mpr hKey)] at hGet
        exact ⟨fun _ h => absurd h hKey, hGet⟩
  | passed hSource =>
      exact .inr ⟨fun h _ => absurd h hSource, hGet⟩

/-
  Whatever was loaded, the cache of a sound library has under
  a key what the latest load with that key entered.
-/
theorem IsSound.get?_loadAll_iff
    (hSound : lib.IsSound)
    (rs : List Request)
    (key : String)
    (loaded : Loaded) :
    (lib.loadAll rs).loaded.get? key = some loaded ↔
      lib.Entered rs key loaded := by
  induction rs using List.reverseRecOn with
  | nil =>
      constructor
      · intro hGet
        cases hGet
      · intro hEntered
        exact absurd hEntered not_entered_nil
  | append_singleton rs r ih =>
      have hCache := mirrors_loadAll lib rs
      have hLoads := loads_load lib r (lib.loadAll rs)
      rw [loadAll_concat, entered_concat_iff, ← ih]
      constructor
      · exact hSound.enters_or_spares hCache hLoads
      · rintro (hEnters | ⟨hSpares, hGet⟩)
        · exact hEnters.get?_of_loads hCache hLoads
        · exact hSpares.get?_of_loads hGet hLoads

------------------------------------------------------------
-- Transparency
------------------------------------------------------------

/-
  After some loads, the cache is transparent: every request
  returns the same configuration as on the empty cache, or
  fails in the same way; the cache has just what the latest
  loads from the library entered; loads from elsewhere and
  those that fail do not change it; and what it has is
  returned as it is unless a reload is forced.
-/
structure IsTransparentAfter
    (lib : Library)
    (rs : List Request) : Prop where
  alone : ∀ r,
    (lib.load r (lib.loadAll rs)).1.map Loaded.config =
      (lib.load r ∅).1.map Loaded.config
  entered : ∀ key loaded,
    (lib.loadAll rs).loaded.get? key = some loaded ↔
      lib.Entered rs key loaded
  elsewhere : ∀ r,
    r.source ≠ .shipped →
      (lib.load r (lib.loadAll rs)).2.loaded =
        (lib.loadAll rs).loaded
  failed : ∀ r fault,
    (lib.load r (lib.loadAll rs)).1 = .error fault →
      (lib.load r (lib.loadAll rs)).2 = lib.loadAll rs
  again : ∀ r loaded,
    r.source = .shipped →
      r.forceReload = false →
        (lib.loadAll rs).loaded.get? (Text.lower r.key) =
          some loaded →
          lib.load r (lib.loadAll rs) =
            (.ok loaded, lib.loadAll rs)

/- A load from elsewhere leaves what the cache has. -/
theorem loaded_eq_of_source_ne
    (hSource : r.source ≠ .shipped)
    (hLoads : lib.Loads r cache answer later) :
    later.loaded = cache.loaded := by
  cases hLoads with
  | again => rfl
  | refused => rfl
  | entered hShipped => exact absurd hShipped hSource
  | passed => rfl

/- A load that fails leaves the cache. -/
theorem eq_of_loads_error
    {fault : Fault}
    (hLoads : lib.Loads r cache (.error fault) later) :
    later = cache := by
  cases hLoads with
  | refused => rfl

/-
  Whatever was loaded from a sound library, its cache is
  transparent.
-/
theorem isTransparentAfter_of_isSound
    (hSound : lib.IsSound)
    (rs : List Request) :
    lib.IsTransparentAfter rs := by
  have hCache := mirrors_loadAll lib rs
  have hLoads := fun r => loads_load lib r (lib.loadAll rs)
  constructor
  · intro r
    rw [hSound.map_config_of_loads hCache (hLoads r),
      hSound.map_config_of_loads (mirrors_empty lib)
        (loads_load lib r ∅)]
  · exact hSound.get?_loadAll_iff rs
  · intro r hSource
    exact loaded_eq_of_source_ne hSource (hLoads r)
  · intro r fault hError
    exact eq_of_loads_error (hError ▸ hLoads r)
  · intro r loaded hSource hForce hGet
    exact loads_iff.mp (.again hSource hForce hGet)

/- The text of a configuration without categories. -/
def bareDocument : String :=
  "\x7b\"key\": \"rn\", \"categories\": [], \"positions\": \x7b\x7d,"
    ++ " \"grammar\": \x7b\"model_part\": []\x7d,"
    ++ " \"reference_string\": \"\"\x7d"

/-
  Loads of the two series in several spellings, of files that
  are missing, no text, no configuration or another one, and of
  a model type that does not exist. The fourth load builds the
  RN series anew.
-/
def severalLoads : List Request :=
  [{ key := "RN", validate := false },
    { key := "rn", source := .document "[]" },
    { key := "zz" },
    { key := "Rn", forceReload := true },
    { key := "rq", source := .garbled },
    { key := "rn", source := .document bareDocument },
    { key := "rq", source := .nowhere, forceReload := true },
    { key := "rQ" },
    { key := "rN" }]

/- After these loads the cache has the second build of the RN series. -/
theorem isTransparentAfter_severalLoads :
    standard.IsSound ∧
      standard.IsTransparentAfter severalLoads ∧
        (standard.loadAll severalLoads).loaded.entries.map
            (fun e => (e.1, e.2.config.key, e.2.serial)) =
          [("rn", .str "rn", 1), ("rq", .str "rq", 3)] := by
  refine
    ⟨isSound_standard,
      isTransparentAfter_of_isSound isSound_standard severalLoads,
      ?_⟩
  decide +kernel

end Library

end ModelNumber
