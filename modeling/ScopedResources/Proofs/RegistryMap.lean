import ScopedResources.Proofs.Preparing
import ScopedResources.Proofs.SharedOnce
import ScopedResources.Proofs.Sweep
import Mathlib.Data.Finmap

/-!
# The registry as a plain map

To calls that come one after another the registry is a finite map from places to live handles. What
it keeps beside that, the entries of handles that were stopped, shows nowhere: a call that asks for
a handle, a handle that is stopped and the end of it all do to the map what one would expect, and
the answers can be told from the map alone and from what factories and containers do. -/

namespace ScopedResources.Lifecycle

variable {s s' : State} {id : HandleId} {place : String × ResourceKey}

/-- A finite map from the places of the registry to handles. -/
abbrev HandleMap := Finmap fun _ : String × ResourceKey => HandleId

/-- A call on the registry, or on a handle. -/
inductive RegistryCall where
  | getOrCreate (r : SharedRequest) (factory : Action LifecycleError HandleId)
  | get (r : SharedRequest)
  | stop (id : HandleId)
  | shutdown

/-- What a call is answered. -/
inductive RegistryAnswer where
  | obtained (answer : Except LifecycleError (HandleId × Bool))
  | seen (answer : Except LifecycleError (Option HandleId))
  | stopped (answer : Except ContainerError Unit)
  | swept (report : Report)

namespace RegistryCall

/-- The answer to a call and the state after it. -/
def perform (s : State) : RegistryCall → RegistryAnswer × State
  | .getOrCreate r factory =>
    let run := Lifecycle.getOrCreate r.backend r.connectionType r.key factory s
    (.obtained run.1, run.2)
  | .get r =>
    let run := getShared r.backend r.connectionType r.key s
    (.seen run.1, run.2)
  | .stop id => (.stopped (stopHandle id s).1, (stopHandle id s).2)
  | .shutdown => (.swept (Lifecycle.shutdown s).1, (Lifecycle.shutdown s).2)

/-- The answers to some calls, one after another, and the state after them. -/
def performAll (s : State) : List RegistryCall → List RegistryAnswer × State
  | [] => ([], s)
  | call :: rest =>
    let first := call.perform s
    let later := performAll first.2 rest
    (first.1 :: later.1, later.2)

end RegistryCall

/-- What a factory for a key comes to: it fails, or makes a live handle for the key that was not
there before. Whatever else it does, registry and earlier handles stay as they were. -/
structure Fabricated (key : ResourceKey) (s : State) (r : Except LifecycleError HandleId)
    (s' : State) : Prop where
  registry : s'.registry = s.registry
  size : s.handles.size ≤ s'.handles.size
  earlier : ∀ id < s.handles.size, s'.handle id = s.handle id
  made : ∀ id, r = .ok id → s.handles.size ≤ id ∧ id < s'.handles.size ∧
    (s'.handle id).stopped = false ∧ (s'.handle id).key = key

def IsFactory (key : ResourceKey) (factory : Action LifecycleError HandleId) : Prop :=
  ∀ s, factory.Yields s (Fabricated key s)

/-- The factory of a call, if it has one, is one for the key that is asked for. -/
def RegistryCall.Proper : RegistryCall → Prop
  | .getOrCreate r factory => IsFactory r.key factory
  | _ => True

/-! ## What calls do to a map -/

namespace HandleMap

/-- Every handle of a map is closed once, and no other one. Those that do not stop are reported with
their keys, the others are counted, and a second sweep finds nothing. -/
structure Sweeps (m : HandleMap) (s : State) (report : Report) (s' : State) : Prop where
  closed : ∀ {place id}, m.lookup place = some id →
    s'.closings id = s.closings id + 1 ∧ (s'.handle id).stopped = true
  spared : ∀ {id}, (∀ place, m.lookup place ≠ some id) →
    s'.closings id = s.closings id ∧ s'.handle id = s.handle id
  total : report.stopped + report.failures.length = m.keys.card
  failures : (report.failures : Multiset (ResourceKey × ContainerError)) =
    m.entries.filterMap fun entry => (s.stopFault? entry.2).map (entry.1.2, ·)
  again : shutdown s' = ({}, s')

/-- What a call on a plain map comes to: its answer, the map and everything else after it. -/
inductive Step (m : HandleMap) (s : State) :
    RegistryCall → RegistryAnswer → HandleMap → State → Prop where
  /-- A mapped handle is returned; the factory does not run. -/
  | found {r : SharedRequest} {factory : Action LifecycleError HandleId} {id : HandleId}
    (hmapped : m.lookup r.slot = some id)
    (htype : (s.handle id).connectionType = r.connectionType) :
    Step m s (.getOrCreate r factory) (.obtained (.ok (id, false))) m s
  | mismatched {r : SharedRequest} {factory : Action LifecycleError HandleId} {id : HandleId}
    (hmapped : m.lookup r.slot = some id)
    (htype : (s.handle id).connectionType ≠ r.connectionType) :
    Step m s (.getOrCreate r factory) (.obtained (.error r.mismatch)) m s
  /-- The factory runs and makes a handle, which is mapped. -/
  | made {r : SharedRequest} {factory : Action LifecycleError HandleId} {id : HandleId} {s' : State}
    (hunmapped : m.lookup r.slot = none) (hrun : factory s = (.ok id, s')) :
    Step m s (.getOrCreate r factory) (.obtained (.ok (id, true))) (m.insert r.slot id)
      (s'.register r.backend r.key id)
  | failed {r : SharedRequest} {factory : Action LifecycleError HandleId} {error : LifecycleError}
    {s' : State} (hunmapped : m.lookup r.slot = none) (hrun : factory s = (.error error, s')) :
    Step m s (.getOrCreate r factory) (.obtained (.error error)) m s'
  | seen {r : SharedRequest} {id : HandleId} (hmapped : m.lookup r.slot = some id)
    (htype : (s.handle id).connectionType = r.connectionType) :
    Step m s (.get r) (.seen (.ok (some id))) m s
  | seenMismatched {r : SharedRequest} {id : HandleId} (hmapped : m.lookup r.slot = some id)
    (htype : (s.handle id).connectionType ≠ r.connectionType) :
    Step m s (.get r) (.seen (.error r.mismatch)) m s
  | unseen {r : SharedRequest} (hunmapped : m.lookup r.slot = none) :
    Step m s (.get r) (.seen (.ok none)) m s
  /-- A mapped handle is stopped, or fails to, and loses its mapping either way. -/
  | stopped {place : String × ResourceKey} {id : HandleId} {answer : Except ContainerError Unit}
    {s' : State} (hmapped : m.lookup place = some id) (hrun : stopHandle id s = (answer, s')) :
    Step m s (.stop id) (.stopped answer) (m.erase place) s'
  | stoppedOther {id : HandleId} {answer : Except ContainerError Unit} {s' : State}
    (hunmapped : ∀ place, m.lookup place ≠ some id) (hrun : stopHandle id s = (answer, s')) :
    Step m s (.stop id) (.stopped answer) m s'
  | swept {report : Report} {s' : State} (h : m.Sweeps s report s') :
    Step m s .shutdown (.swept report) ∅ s'

end HandleMap

/-- The registry shows a map: it finds the handles of the map, and it counts them. -/
structure State.Shows (s : State) (m : HandleMap) : Prop where
  live : ∀ place, s.liveAt place = m.lookup place
  count : s.countLive = m.keys.card

/-- Calls on a plain map that the registry shows before every one of them. -/
inductive HandleMap.Run : HandleMap → State → List RegistryCall → List RegistryAnswer → HandleMap →
    State → Prop where
  | nil {m : HandleMap} {s : State} : Run m s [] [] m s
  | cons {m m' m'' : HandleMap} {s s' s'' : State} {call : RegistryCall} {answer : RegistryAnswer}
    {calls : List RegistryCall} {answers : List RegistryAnswer} (hshows : s.Shows m)
    (hstep : m.Step s call answer m' s') (hrest : Run m' s' calls answers m'' s'') :
    Run m s (call :: calls) (answer :: answers) m'' s''

/-! ## What the registry keeps -/

/-- Every place has one entry, of a handle that was made for its key and has no other place. -/
structure State.Filed (s : State) : Prop where
  keys : (s.registry.map Prod.fst).Nodup
  made : ∀ {place id}, Assoc.find? place s.registry = some id →
    id < s.handles.size ∧ (s.handle id).key = place.2
  unique : ∀ {place place' id}, Assoc.find? place s.registry = some id →
    Assoc.find? place' s.registry = some id → place = place'

namespace State.Filed

theorem of_nil (h : s.registry = []) : s.Filed where
  keys := by
    rw [h]
    exact List.nodup_nil
  made hfound := by
    rw [h] at hfound
    cases hfound
  unique hfound := by
    rw [h] at hfound
    cases hfound

/-- Handles may be new and stopped; what is registered stays. -/
theorem congr (h : s.Filed) (hregistry : s'.registry = s.registry)
    (hsize : s.handles.size ≤ s'.handles.size)
    (hkey : ∀ id < s.handles.size, (s'.handle id).key = (s.handle id).key) : s'.Filed where
  keys := hregistry ▸ h.keys
  made hfound := by
    obtain ⟨hid, hhas⟩ := h.made (hregistry ▸ hfound)
    exact ⟨Nat.lt_of_lt_of_le hid hsize, (hkey _ hid).trans hhas⟩
  unique hfound hfound' := h.unique (hregistry ▸ hfound) (hregistry ▸ hfound')

/-- A handle that has no place yet gets one. -/
theorem register (h : s.Filed) {backend : String} {key : ResourceKey} (hid : id < s.handles.size)
    (hkey : (s.handle id).key = key) (hnew : ∀ place, Assoc.find? place s.registry ≠ some id) :
    (s.register backend key id).Filed where
  keys := Assoc.nodup_keys_insert h.keys _ _
  made {place found} hfound := by
    unfold State.register at hfound
    rw [Assoc.find?_insert] at hfound
    split at hfound
    next hplace =>
      cases hfound
      exact ⟨hid, hplace ▸ hkey⟩
    next => exact h.made hfound
  unique {place place' found} hfound hfound' := by
    unfold State.register at hfound hfound'
    rw [Assoc.find?_insert] at hfound hfound'
    split at hfound
    next hplace =>
      cases hfound
      split at hfound'
      next hplace' => exact hplace.symm.trans hplace'
      next => exact absurd hfound' (hnew place')
    next =>
      split at hfound'
      next =>
        cases hfound'
        exact absurd hfound (hnew place)
      next => exact h.unique hfound hfound'

/-- No handle stands in the registry twice. -/
theorem nodup_handles (h : s.Filed) : (s.registry.map Prod.snd).Nodup := by
  refine List.Nodup.map_on ?_ h.keys.of_map
  intro entry hentry entry' hentry' heq
  have hfound := Assoc.find?_of_mem h.keys hentry
  have hfound' := Assoc.find?_of_mem h.keys hentry'
  exact Prod.ext (h.unique hfound (heq ▸ hfound')) heq

/-- The entries of the map that is shown are those of the live handles. -/
theorem entries_eq (h : s.Filed) {m : HandleMap}
    (hlive : ∀ place, s.liveAt place = m.lookup place) :
    m.entries = ((s.registry.filter fun entry => !(s.handle entry.2).stopped).map
      fun entry => ⟨entry.1, entry.2⟩ : List (Σ _ : String × ResourceKey, HandleId)) := by
  have hnodup : ((s.registry.filter fun entry => !(s.handle entry.2).stopped).map fun entry =>
      (⟨entry.1, entry.2⟩ : Σ _ : String × ResourceKey, HandleId)).Nodup := by
    refine List.Nodup.map ?_ (h.keys.of_map.filter _)
    rintro ⟨place, id⟩ ⟨place', id'⟩ heq
    cases heq
    rfl
  refine (Multiset.Nodup.ext m.nodup_entries (Multiset.coe_nodup.mpr hnodup)).mpr ?_
  rintro ⟨place, id⟩
  rw [← Finmap.lookup_eq_some_iff, ← hlive, Sharing.liveAt_eq_some_iff, Multiset.mem_coe,
    List.mem_map]
  constructor
  · rintro ⟨hfound, hstopped⟩
    refine ⟨(place, id), List.mem_filter.mpr ⟨Assoc.mem_of_find? hfound, ?_⟩, rfl⟩
    simp [hstopped]
  · rintro ⟨entry, hentry, heq⟩
    cases heq
    obtain ⟨hmem, hstopped⟩ := List.mem_filter.mp hentry
    exact ⟨Assoc.find?_of_mem h.keys hmem, by simpa using hstopped⟩

/-- A map of the live handles is one that the registry shows. -/
theorem shows (h : s.Filed) {m : HandleMap} (hlive : ∀ place, s.liveAt place = m.lookup place) :
    s.Shows m := by
  refine ⟨hlive, ?_⟩
  have hcard : m.keys.card = m.entries.card := Multiset.card_map ..
  rw [hcard, h.entries_eq hlive, Multiset.coe_card, List.length_map, State.countLive,
    List.countP_eq_length_filter]

end State.Filed

/-! ## One call -/

variable {m : HandleMap}

/-- What a call comes to for a map that the registry shows. -/
def RegistryCall.Mirrored (call : RegistryCall) (m : HandleMap) (s : State) : Prop :=
  ∃ m', m.Step s call (call.perform s).1 m' (call.perform s).2 ∧ (call.perform s).2.Filed ∧
    (call.perform s).2.Shows m'

theorem liveAt_congr (hregistry : s'.registry = s.registry)
    (hstopped : ∀ {id}, Assoc.find? place s.registry = some id →
      (s'.handle id).stopped = (s.handle id).stopped) : s'.liveAt place = s.liveAt place := by
  unfold State.liveAt State.live?
  rw [hregistry]
  cases hfound : Assoc.find? place s.registry with
  | none => rfl
  | some id => rw [Option.filter_some, Option.filter_some, hstopped hfound]

theorem getOrCreate_mirrored (hfiled : s.Filed) (hshows : s.Shows m) {r : SharedRequest}
    {factory : Action LifecycleError HandleId} (hfactory : IsFactory r.key factory) :
    (RegistryCall.getOrCreate r factory).Mirrored m s := by
  rw [RegistryCall.Mirrored, RegistryCall.perform]
  cases hlive : s.liveAt r.slot with
  | some id =>
      have hmapped : m.lookup r.slot = some id := (hshows.live r.slot).symm.trans hlive
      rw [Sharing.getOrCreate_of_live hlive]
      by_cases htype : (s.handle id).connectionType = r.connectionType
      · have hfound : r.found s id = .ok (id, false) := by
          unfold SharedRequest.found ofType
          simp only [Action.run_bind, Action.run_get, if_pos htype]
          rfl
        rw [hfound]
        exact ⟨m, .found hmapped htype, hfiled, hshows⟩
      · have hfound : r.found s id = .error r.mismatch := by
          unfold SharedRequest.found ofType
          simp only [Action.run_bind, Action.run_get, if_neg htype]
          rfl
        rw [hfound]
        exact ⟨m, .mismatched hmapped htype, hfiled, hshows⟩
  | none =>
      have hunmapped : m.lookup r.slot = none := (hshows.live r.slot).symm.trans hlive
      rw [Sharing.getOrCreate_of_none hlive]
      rcases hrun : factory s with ⟨result, s'⟩
      obtain ⟨hregistry, hsize, hearlier, hmade⟩ := (hfactory s).of_run hrun
      have hlater := hfiled.congr hregistry hsize fun id hid => by rw [hearlier id hid]
      -- the handles that have a place were there before the factory ran
      have hkept : ∀ place, s'.liveAt place = s.liveAt place := fun place =>
        liveAt_congr hregistry fun hfound => by rw [hearlier _ (hfiled.made hfound).1]
      cases result with
      | error error =>
        exact ⟨m, .failed hunmapped hrun, hlater,
          hlater.shows fun place => (hkept place).trans (hshows.live place)⟩
      | ok id =>
        obtain ⟨hfresh, hid, hnew, hkey⟩ := hmade id rfl
        have hhomeless : ∀ place, Assoc.find? place s'.registry ≠ some id := by
          intro place hfound
          rw [hregistry] at hfound
          exact absurd (hfiled.made hfound).1 (Nat.not_lt.mpr hfresh)
        have hregistered : (s'.register r.backend r.key id).Filed :=
          hlater.register hid hkey hhomeless
        refine ⟨m.insert r.slot id, .made hunmapped hrun, hregistered, hregistered.shows ?_⟩
        intro place
        by_cases hplace : place = r.slot
        · rw [hplace, Finmap.lookup_insert]
          exact live?_register hnew r.backend r.key
        · rw [Finmap.lookup_insert_of_ne _ hplace, ← hshows.live, ← hkept]
          unfold State.liveAt State.live? State.register
          rw [Assoc.find?_insert, if_neg fun heq => hplace heq.symm]
          rfl

theorem get_mirrored (hfiled : s.Filed) (hshows : s.Shows m) (r : SharedRequest) :
    (RegistryCall.get r).Mirrored m s := by
  rw [RegistryCall.Mirrored, RegistryCall.perform]
  have hlookup := hshows.live r.slot
  have hlive : s.liveAt r.slot = s.live? r.backend r.key := rfl
  unfold getShared
  simp only [Action.run_bind, Action.run_get]
  rw [hlive] at hlookup
  cases hfound : s.live? r.backend r.key with
  | none =>
      rw [hfound] at hlookup
      exact ⟨m, .unseen hlookup.symm, hfiled, hshows⟩
  | some id =>
      rw [hfound] at hlookup
      unfold ofType
      simp only [Action.run_bind, Action.run_get]
      by_cases htype : (s.handle id).connectionType = r.connectionType
      · rw [if_pos htype]
        exact ⟨m, .seen hlookup.symm htype, hfiled, hshows⟩
      · rw [if_neg htype]
        exact ⟨m, .seenMismatched hlookup.symm htype, hfiled, hshows⟩

theorem stop_mirrored (hfiled : s.Filed) (hshows : s.Shows m) (id : HandleId) :
    (RegistryCall.stop id).Mirrored m s := by
  have hconfined := stopHandle_confined id s
  have hlater : (stopHandle id s).2.Filed := hfiled.congr hconfined.registry
    (Nat.le_of_eq hconfined.size.symm) fun other _ => key_stopHandle id other s
  -- in a place of another handle nothing changes
  have helsewhere : ∀ {place}, m.lookup place ≠ some id →
      (stopHandle id s).2.liveAt place = m.lookup place := by
    intro place hnot
    rw [← hshows.live] at hnot ⊢
    refine liveAt_congr hconfined.registry fun {other} hfound => ?_
    by_cases hother : other = id
    · subst hother
      cases hstopped : (s.handle other).stopped with
      | true => rw [stopHandle_of_stopped hstopped, hstopped]
      | false => exact absurd (Sharing.liveAt_eq_some_iff.mpr ⟨hfound, hstopped⟩) hnot
    · exact hconfined.stopped fun hmem => hother (List.mem_singleton.mp hmem)
  rw [RegistryCall.Mirrored, RegistryCall.perform]
  by_cases hmapped : ∃ place, m.lookup place = some id
  · obtain ⟨place, hplace⟩ := hmapped
    obtain ⟨hfound, hlive⟩ := Sharing.liveAt_eq_some_iff.mp ((hshows.live place).trans hplace)
    refine ⟨m.erase place, .stopped hplace rfl, hlater, hlater.shows fun other => ?_⟩
    by_cases hother : other = place
    · subst hother
      rw [Finmap.lookup_erase, Option.eq_none_iff_forall_ne_some]
      intro held hheld
      obtain ⟨hfound', hlive'⟩ := Sharing.liveAt_eq_some_iff.mp hheld
      rw [hconfined.registry, hfound] at hfound'
      cases hfound'
      rw [(stopHandle_stopping (hfiled.made hfound).1 hlive).stopped] at hlive'
      cases hlive'
    · rw [Finmap.lookup_erase_ne hother]
      refine helsewhere fun hheld => hother ?_
      have hfound' := (Sharing.liveAt_eq_some_iff.mp ((hshows.live other).trans hheld)).1
      exact hfiled.unique hfound' hfound
  · have hunmapped : ∀ place, m.lookup place ≠ some id :=
      fun place hplace => hmapped ⟨place, hplace⟩
    exact ⟨m, .stoppedOther hunmapped rfl, hlater, hlater.shows fun place =>
      helsewhere (hunmapped place)⟩

theorem shutdown_sweeps (hfiled : s.Filed) (hshows : s.Shows m) :
    m.Sweeps s (shutdown s).1 (shutdown s).2 := by
  have hentries := hfiled.entries_eq hshows.live
  have hknown : ∀ id ∈ s.registry.map Prod.snd, id < s.handles.size := by
    intro id hid
    obtain ⟨⟨place, _⟩, hentry, rfl⟩ := List.mem_map.mp hid
    exact (hfiled.made (Assoc.find?_of_mem hfiled.keys hentry)).1
  obtain ⟨hstopped, hfailures, hclosings, hhalted, hother, -⟩ :=
    shutdown_swept hfiled.nodup_handles hknown
  -- the live handles of the registry are those of the map
  have hliveOf : s.liveOf (s.registry.map Prod.snd) =
      (s.registry.filter fun entry => !(s.handle entry.2).stopped).map Prod.snd :=
    List.filter_map ..
  have hmem : ∀ id,
      id ∈ s.liveOf (s.registry.map Prod.snd) ↔ ∃ place, m.lookup place = some id := by
    intro id
    simp only [Finmap.lookup_eq_some_iff, hentries, hliveOf, Multiset.mem_coe, List.mem_map]
    constructor
    · rintro ⟨⟨place, _⟩, hentry, rfl⟩
      exact ⟨place, _, hentry, rfl⟩
    · rintro ⟨place, entry, hentry, heq⟩
      cases heq
      exact ⟨entry, hentry, rfl⟩
  refine ⟨?_, ?_, ?_, ?_, ?_⟩
  · intro place id hplace
    have hid := (hmem id).mpr ⟨place, hplace⟩
    exact ⟨(hclosings id).trans (congrArg _ (if_pos hid)), hhalted id hid⟩
  · intro id hnot
    have hid : id ∉ s.liveOf (s.registry.map Prod.snd) :=
      fun hin => ((hmem id).mp hin).elim hnot
    exact ⟨(hclosings id).trans (congrArg _ (if_neg hid)), hother id hid⟩
  · have hcard : m.keys.card = (s.liveOf (s.registry.map Prod.snd)).length := by
      rw [show m.keys.card = m.entries.card from Multiset.card_map .., hentries, Multiset.coe_card,
        hliveOf, List.length_map, List.length_map]
    rw [hcard, hstopped, hfailures, List.nil_append, ← stoppable_add_length s]
    exact congrArg (· + _) (Nat.zero_add _)
  · rw [hentries, hfailures, List.nil_append, hliveOf, State.stopFailures, Multiset.filterMap_coe,
      List.filterMap_map, List.filterMap_map]
    refine congrArg _ (List.filterMap_congr fun entry hentry => ?_)
    have hfound := Assoc.find?_of_mem hfiled.keys (List.mem_filter.mp hentry).1
    exact congrArg (fun key => (s.stopFault? entry.2).map (key, ·)) (hfiled.made hfound).2
  · exact shutdown_of_nil (shutdown_registry s)

theorem shutdown_mirrored (hfiled : s.Filed) (hshows : s.Shows m) :
    RegistryCall.shutdown.Mirrored m s := by
  have hempty := shutdown_registry s
  have hlater : (shutdown s).2.Filed := .of_nil hempty
  refine ⟨∅, .swept (shutdown_sweeps hfiled hshows), hlater, hlater.shows fun place => ?_⟩
  rw [Finmap.lookup_empty, State.liveAt, State.live?]
  change (Assoc.find? place (shutdown s).2.registry).filter _ = none
  rw [hempty]
  rfl

/-- Every call comes to what it would come to on the map that the registry shows. -/
theorem RegistryCall.Proper.mirrored {call : RegistryCall} (hproper : call.Proper)
    (hfiled : s.Filed) (hshows : s.Shows m) : call.Mirrored m s := by
  cases call with
  | getOrCreate r factory => exact getOrCreate_mirrored hfiled hshows hproper
  | get r => exact get_mirrored hfiled hshows r
  | stop id => exact stop_mirrored hfiled hshows id
  | shutdown => exact shutdown_mirrored hfiled hshows

/-! ## Calls one after another -/

theorem run_of_shows {calls : List RegistryCall} (hproper : ∀ call ∈ calls, call.Proper)
    (hfiled : s.Filed) (hshows : s.Shows m) :
    ∃ m', HandleMap.Run m s calls (RegistryCall.performAll s calls).1 m'
      (RegistryCall.performAll s calls).2 ∧ (RegistryCall.performAll s calls).2.Shows m' := by
  induction calls generalizing s m with
  | nil => exact ⟨m, .nil, hshows⟩
  | cons call rest ih =>
      rw [List.forall_mem_cons] at hproper
      obtain ⟨m₁, hstep, hfiled₁, hshows₁⟩ := hproper.1.mirrored hfiled hshows
      obtain ⟨m', hrest, hlast⟩ := ih hproper.2 hfiled₁ hshows₁
      exact ⟨m', .cons hshows hstep hrest, hlast⟩

/-- Calls on a registry that was empty run as they would on a plain map, which the registry shows
before and after every one of them. -/
theorem registry_refines_map {calls : List RegistryCall} (hempty : s.registry = [])
    (hproper : ∀ call ∈ calls, call.Proper) :
    ∃ m, HandleMap.Run ∅ s calls (RegistryCall.performAll s calls).1 m
      (RegistryCall.performAll s calls).2 ∧ (RegistryCall.performAll s calls).2.Shows m := by
  have hfiled := State.Filed.of_nil hempty
  refine run_of_shows hproper hfiled (hfiled.shows fun place => ?_)
  rw [Finmap.lookup_empty, State.liveAt, State.live?, hempty]
  rfl

/-! ## Factories -/

theorem throw_isFactory (key : ResourceKey) (error : LifecycleError) :
    IsFactory key (throw error) :=
  fun _ => ⟨rfl, Nat.le_refl _, fun _ _ => rfl, fun _ heq => by cases heq⟩

/-- What makes an instance for a node is a factory for its key. -/
theorem provision_isFactory (backend : Backend) (node : ScopeNode) (key : ResourceKey) :
    IsFactory key (provision backend node key) := by
  intro s
  have hprovided := provision_provisioned backend node key s
  refine ⟨hprovided.registry, hprovided.size_le, fun id => hprovided.handle_eq, fun id heq => ?_⟩
  obtain ⟨index, connection, hhandle⟩ := provision_handleOf backend node key s id heq
  have hmade : Provisioned s (.ok id) (provision backend node key s).2 := heq ▸ hprovided
  obtain ⟨rfl, hsize, hlive⟩ := hmade.made
  refine ⟨Nat.le_refl _, ?_, hlive, ?_⟩
  · rw [hsize]
    exact Nat.lt_succ_self _
  · rw [hhandle, handleOf]

/-! ## A container that does not stop

Of two handles one is stopped and made anew, and the container of the other one fails to stop. -/

namespace Stubborn

def request (image : String) : SharedRequest where
  backend := "MEMORY"
  key := { image }
  connectionType := "MemoryConnection"

/-- The class whose containers do not stop. -/
def stubborn : ScopeNode :=
  (ScopeNode.root "run").child 1 .testClass "Stubborn"

def start : State :=
  { State.initial {} {} [] with
    overrides := ({} : Store String ContainerOverride).put stubborn "MEMORY"
      { image := "memory:b", faults := [.stop] } }

/-- Asks for the handle of an image, which is made for a node if need be. -/
def ask (node : ScopeNode) (image : String) : RegistryCall :=
  .getOrCreate (request image) (provision (Backend.memory "MemoryConnection") node { image })

def calls : List RegistryCall :=
  [.getOrCreate (request "memory:a") (throw (.configuration "not yet")),
    ask (ScopeNode.root "run") "memory:a", ask stubborn "memory:b",
    .get { request "memory:b" with connectionType := "OtherConnection" }, .stop 0,
    ask (ScopeNode.root "run") "memory:a", .shutdown, .shutdown]

theorem calls_proper : ∀ call ∈ calls, call.Proper := by
  simp only [calls, ask, List.forall_mem_cons, RegistryCall.Proper, List.not_mem_nil, false_imp_iff,
    implies_true, and_true, true_and]
  exact ⟨throw_isFactory _ _, provision_isFactory _ _ _, provision_isFactory _ _ _,
    provision_isFactory _ _ _⟩

/-- The first sweep stops the handle that was made anew and reports the other one; the second finds
nothing. -/
theorem stubborn_container_reported : start.registry = [] ∧ (∀ call ∈ calls, call.Proper) ∧
    ∃ m, HandleMap.Run ∅ start calls
      [.obtained (.error (.configuration "not yet")), .obtained (.ok (0, true)),
        .obtained (.ok (1, true)),
        .seen (.error { request "memory:b" with connectionType := "OtherConnection" }.mismatch),
        .stopped (.ok ()), .obtained (.ok (2, true)),
        .swept {
          stopped := 1, failures := [({ image := "memory:b" }, ⟨"stop", "injected fault"⟩)] },
        .swept {}] m (RegistryCall.performAll start calls).2 :=
  let ⟨m, hrun, _⟩ := registry_refines_map (s := start) rfl calls_proper
  ⟨rfl, calls_proper, m, hrun⟩

end Stubborn

end ScopedResources.Lifecycle
