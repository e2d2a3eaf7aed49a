import ScopedResources.Proofs.AbreastHooks
import ScopedResources.Proofs.Run
import Mathlib.Data.Bool.Basic
import Mathlib.Logic.Function.Basic

/-!
# Coordinators in company

Several coordinators work on one tree and one registry, each on a backend of its own. Whatever order
their requests come in, every coordinator is answered as if it were alone, and what it looks after
is what it would be then; only its handles may have other numbers. -/

namespace ScopedResources.Lifecycle

/-! ## Requests and their replies -/

/-- What a request is answered. -/
inductive Answer where
  | done (result : Except LifecycleError Unit)
  | handle (result : Except LifecycleError HandleId)
  | params (result : Except LifecycleError ConnectionParams)

/-- The answer to a request; the state after it is left to `perform`. -/
def Request.answer (c : Coordinator) (node : ScopeNode) (s : State) : Request → Answer
  | declare _ | overrideContainer _ => .done (.ok ())
  | declareFrom file => .done (c.declareFrom node file s).1
  | beforeAll => .done (c.beforeAll node s).1
  | beforeEach => .done (c.beforeEach node s).1
  | resolve => .handle (c.resolve node s).1
  | resolveParams => .params (c.resolveParams node s).1
  | afterEach => .done (c.afterEach node s).1
  | afterAll => .done (c.afterAll node s).1

/-- An answer, with what was done for it. -/
structure Reply where
  answer : Answer
  told : List Event

/-- A request of one of several coordinators at a node. -/
structure Demand (ι : Type) where
  who : ι
  node : ScopeNode
  asked : Request

section Demands

variable {ι : Type} (team : ι → Coordinator)

def Demand.perform (s : State) (demand : Demand ι) : State :=
  demand.asked.perform (team demand.who) demand.node s

def Demand.reply (s : State) (demand : Demand ι) : Reply where
  answer := demand.asked.answer (team demand.who) demand.node s
  told := (demand.perform team s).journal.drop s.journal.length

/-- The state after some demands. -/
def meet (demands : List (Demand ι)) (s : State) : State :=
  demands.foldl (Demand.perform team) s

variable [DecidableEq ι]

/-- The replies to one of the coordinators. -/
def heard (i : ι) : List (Demand ι) → State → List Reply
  | [], _ => []
  | demand :: rest, s =>
    if demand.who = i then demand.reply team s :: heard i rest (demand.perform team s)
    else heard i rest (demand.perform team s)

/-- The demands of one of the coordinators. -/
def demandsOf (i : ι) (demands : List (Demand ι)) : List (Demand ι) :=
  demands.filter fun demand => demand.who = i

/-- Coordinators of one run, each with a backend of its own on a server of its own. -/
structure Separate (team : ι → Coordinator) : Prop where
  name : Function.Injective fun i => (team i).name
  backend : Function.Injective fun i => (team i).backend.name
  server : Function.Injective fun i => (team i).backend.server

end Demands

/-! ## One request -/

/-- The same answer in both runs. -/
inductive Answer.Same (own : Renumbering) : Answer → Answer → Prop
  | done {r r' : Except LifecycleError Unit} (h : Outcome (Agree own) r r') :
      Answer.Same own (.done r) (.done r')
  | handle {r r' : Except LifecycleError HandleId} (h : Outcome own.Names r r') :
      Answer.Same own (.handle r) (.handle r')
  | params {r r' : Except LifecycleError ConnectionParams} (h : Outcome (Agree own) r r') :
      Answer.Same own (.params r) (.params r')

/-- The same answer in both runs, for which the same was done. -/
structure Reply.Same (own : Renumbering) (reply reply' : Reply) : Prop where
  answer : reply.answer.Same own reply'.answer
  told : List.Forall₂ (Event.Same own) reply.told reply'.told

variable {c d : Coordinator} {own own' : Renumbering} {s s' t t' : State} {node : ScopeNode}

theorem Outcome.mono {ε α : Type} {r r' : α → α → Prop} {x x' : Except ε α} (h : Outcome r x x')
    (himp : ∀ a a', r a a' → r' a a') : Outcome r' x x' := by
  cases h with
  | ok ha => exact .ok (himp _ _ ha)
  | error e => exact .error e

theorem Answer.Same.mono {answer answer' : Answer} (h : answer.Same own answer')
    (hgrown : own <+: own') : answer.Same own' answer' := by
  cases h with
  | done h => exact .done h
  | handle h => exact .handle (h.mono fun _ _ hid => hid.mono hgrown)
  | params h => exact .params h

theorem Reply.Same.mono {reply reply' : Reply} (h : reply.Same own reply') (hgrown : own <+: own') :
    reply.Same own' reply' :=
  ⟨h.answer.mono hgrown, h.told.imp fun _ _ hevent => hevent.mono hgrown⟩

theorem request_paced (h : Abreast c own s t) (node : ScopeNode) (asked : Request) :
    ∃ own', Paced c own s t own' (asked.perform c node s) (asked.perform c node t) ∧
      (asked.answer c node s).Same own' (asked.answer c node t) := by
  cases asked with
  | declare decl =>
      obtain ⟨own', hpaced, -⟩ := c.declare_follows h node decl
      exact ⟨own', hpaced, .done (.ok rfl)⟩
  | declareFrom file =>
      obtain ⟨own', hpaced, hr⟩ := c.declareFrom_tracks h node file
      exact ⟨own', hpaced, .done hr⟩
  | overrideContainer override =>
      obtain ⟨own', hpaced, -⟩ := c.overrideContainer_follows h node override
      exact ⟨own', hpaced, .done (.ok rfl)⟩
  | beforeAll =>
      obtain ⟨own', hpaced, hr⟩ := c.beforeAll_tracks h node
      exact ⟨own', hpaced, .done hr⟩
  | beforeEach =>
      obtain ⟨own', hpaced, hr⟩ := c.beforeEach_tracks h node
      exact ⟨own', hpaced, .done hr⟩
  | resolve =>
      obtain ⟨own', hpaced, hr⟩ := c.resolve_tracks h node
      exact ⟨own', hpaced, .handle hr⟩
  | resolveParams =>
      obtain ⟨own', hpaced, hr⟩ := c.resolveParams_tracks h node
      exact ⟨own', hpaced, .params hr⟩
  | afterEach =>
      obtain ⟨own', hpaced, hr⟩ := c.afterEach_tracks h node
      exact ⟨own', hpaced, .done hr⟩
  | afterAll =>
      obtain ⟨own', hpaced, hr⟩ := c.afterAll_tracks h node
      exact ⟨own', hpaced, .done hr⟩

/-- What another coordinator does is not noticed. -/
theorem Abreast.apart (h : Abreast d own s t) (hapart : Apart c own' t t') (hname : d.name ≠ c.name)
    (hbackend : d.backend.name ≠ c.backend.name) (hserver : d.backend.server ≠ c.backend.server)
    (hdisjoint : own.Disjoint own') : Abreast d own s t' where
  environment := hapart.environment.trans h.environment
  files := hapart.files.trans h.files
  server := (hapart.server _ hserver).trans h.server
  size := h.size
  nodup := h.nodup
  below id hid := Nat.lt_of_lt_of_le (h.below id hid) hapart.size
  handle hid := (hapart.handle _ (h.below _ hid.mem) fun hmem => hdisjoint hid.mem hmem).trans
    (h.handle hid)
  home := h.home
  registry key := by
    rw [hapart.registry _ hbackend]
    exact h.registry key
  declarations number := (hapart.declarations _ hbackend number).trans (h.declarations number)
  overrides number := (hapart.overrides _ hbackend number).trans (h.overrides number)
  bindings number := by
    rw [Coordinator.bindingKey, hapart.bindings _ hbackend]
    exact h.bindings number
  finished number := (hapart.finished _ hbackend number).trans (h.finished number)
  warnedKeys key := (hapart.warnedKeys _ hname key).trans (h.warnedKeys key)

theorem initial_abreast (c : Coordinator) (environment : Environment) (files : Files.Tree)
    (servers : Assoc String Memory.Server) :
    Abreast c [] (.initial environment files servers) (.initial environment files servers) where
  environment := rfl
  files := rfl
  server := rfl
  size := rfl
  nodup := List.nodup_nil
  below _ hid := absurd hid List.not_mem_nil
  handle hid := absurd hid.mem List.not_mem_nil
  home hid := absurd hid (Nat.not_lt_zero _)
  registry _ := .none
  declarations _ := rfl
  overrides _ := rfl
  bindings _ := .none
  finished _ := rfl
  warnedKeys _ := Iff.rfl

theorem Demand.reply_same {ι : Type} {team : ι → Coordinator} {demand : Demand ι}
    (h : Told own s (demand.perform team s) t (demand.perform team t))
    (hanswer : (demand.asked.answer (team demand.who) demand.node s).Same own
      (demand.asked.answer (team demand.who) demand.node t)) :
    (demand.reply team s).Same own (demand.reply team t) := by
  obtain ⟨told, told', hs, ht, hsame⟩ := h
  refine ⟨hanswer, ?_⟩
  unfold Demand.reply
  rw [hs, ht, List.drop_left, List.drop_left]
  exact hsame

/-! ## Whole runs -/

/-- Every coordinator is abreast of the run in which it is alone, and no handle has two owners. -/
structure InCompany {ι : Type} (team : ι → Coordinator) (owns : ι → Renumbering) (solo : ι → State)
    (t : State) : Prop where
  abreast : ∀ i, Abreast (team i) (owns i) (solo i) t
  disjoint : ∀ i j, i ≠ j → (owns i).Disjoint (owns j)

section Teams

variable {ι : Type} [DecidableEq ι] {team : ι → Coordinator} {owns : ι → Renumbering}
variable {solo : ι → State}

theorem disjoint_update {who : ι} {own : Renumbering}
    (h : ∀ i j, i ≠ j → (owns i).Disjoint (owns j)) (hown : ∀ j, j ≠ who → (owns j).Disjoint own)
    (i j : ι) (hij : i ≠ j) :
    (Function.update owns who own i).Disjoint (Function.update owns who own j) := by
  by_cases hi : i = who
  · subst hi
    rw [Function.update_self, Function.update_of_ne hij.symm]
    exact List.disjoint_symm (hown j hij.symm)
  · rw [Function.update_of_ne hi]
    by_cases hj : j = who
    · subst hj
      rw [Function.update_self]
      exact hown i hi
    · rw [Function.update_of_ne hj]
      exact h i j hij

/-- The one who demands something takes the step in both runs; to the others nothing happens. -/
theorem InCompany.demand (hteam : Separate team) (h : InCompany team owns solo t)
    (demand : Demand ι) :
    ∃ own, owns demand.who <+: own ∧
      InCompany team (Function.update owns demand.who own)
        (Function.update solo demand.who (demand.perform team (solo demand.who)))
        (demand.perform team t) ∧
      (demand.reply team (solo demand.who)).Same own (demand.reply team t) := by
  obtain ⟨who, node, asked⟩ := demand
  obtain ⟨own, hpaced, hanswer⟩ := request_paced (h.abreast who) node asked
  -- what is new to the one is above all handles that the others know
  have hapart : ∀ j, j ≠ who → (owns j).Disjoint own := by
    obtain ⟨fresh, rfl, hfresh⟩ := hpaced.grown
    refine fun j hj => List.disjoint_append_right.mpr ⟨h.disjoint j who hj, fun id hid hmem => ?_⟩
    exact Nat.not_lt_of_le (hfresh id hmem) ((h.abreast j).below id hid)
  refine ⟨own, hpaced.isPrefix, ⟨fun j => ?_, disjoint_update h.disjoint hapart⟩,
    Demand.reply_same hpaced.told hanswer⟩
  by_cases hj : j = who
  · subst hj
    rw [Function.update_self, Function.update_self]
    exact hpaced.abreast
  · rw [Function.update_of_ne hj, Function.update_of_ne hj]
    exact (h.abreast j).apart hpaced.apart (hteam.name.ne hj) (hteam.backend.ne hj)
      (hteam.server.ne hj) (hapart j hj)

theorem demandsOf_cons_self (demand : Demand ι) (rest : List (Demand ι)) :
    demandsOf demand.who (demand :: rest) = demand :: demandsOf demand.who rest :=
  List.filter_cons_of_pos (decide_eq_true rfl)

theorem demandsOf_cons_of_ne {i : ι} {demand : Demand ι} (h : i ≠ demand.who)
    (rest : List (Demand ι)) : demandsOf i (demand :: rest) = demandsOf i rest :=
  List.filter_cons_of_neg (by simpa using h.symm)

/-- Of the first demand only the one who makes it knows when alone. -/
theorem meet_demandsOf_cons (i : ι) (demand : Demand ι) (rest : List (Demand ι)) :
    meet team (demandsOf i (demand :: rest)) (solo i) = meet team (demandsOf i rest)
      (Function.update solo demand.who (demand.perform team (solo demand.who)) i) := by
  by_cases hi : i = demand.who
  · subst hi
    rw [demandsOf_cons_self, Function.update_self]
    rfl
  · rw [demandsOf_cons_of_ne hi, Function.update_of_ne hi]

theorem InCompany.meet (hteam : Separate team) (demands : List (Demand ι))
    (h : InCompany team owns solo t) :
    ∃ owns', (∀ i, owns i <+: owns' i) ∧
      InCompany team owns' (fun i => meet team (demandsOf i demands) (solo i))
        (meet team demands t) ∧
      ∀ i, List.Forall₂ (Reply.Same (owns' i)) (heard team i (demandsOf i demands) (solo i))
        (heard team i demands t) := by
  -- every demand moves one coordinator on in the run in which it is alone
  induction demands generalizing owns solo t with
  | nil => exact ⟨owns, fun i => List.prefix_rfl, h, fun i => .nil⟩
  | cons demand rest ih =>
      obtain ⟨own, hgrown, hstep, hreply⟩ := h.demand hteam demand
      obtain ⟨owns', hmore, hrest, hheard⟩ := ih hstep
      have hwho : own <+: owns' demand.who := by
        have hown := hmore demand.who
        rwa [Function.update_self] at hown
      refine ⟨owns', fun i => ?_, ?_, fun i => ?_⟩
      · by_cases hi : i = demand.who
        · exact hi ▸ hgrown.trans hwho
        · have hown := hmore i
          rwa [Function.update_of_ne hi] at hown
      · simp only [meet_demandsOf_cons]
        exact hrest
      · have hlater := hheard i
        by_cases hi : i = demand.who
        · subst hi
          rw [Function.update_self] at hlater
          rw [demandsOf_cons_self, heard, heard, if_pos rfl, if_pos rfl]
          exact .cons (hreply.mono hwho) hlater
        · rw [Function.update_of_ne hi] at hlater
          rw [demandsOf_cons_of_ne hi, heard, if_neg (Ne.symm hi)]
          exact hlater

/-- Backends do not interfere: from the beginning of a run on, every coordinator is answered as if
only its own demands were made, and what it looks after in the end is the same as then, up to the
numbers of handles. -/
theorem backends_do_not_interfere (hteam : Separate team) (demands : List (Demand ι))
    (environment : Environment) (files : Files.Tree) (servers : Assoc String Memory.Server) :
    ∃ owns : ι → Renumbering, (∀ i j, i ≠ j → (owns i).Disjoint (owns j)) ∧ ∀ i,
      Abreast (team i) (owns i)
        (meet team (demandsOf i demands) (.initial environment files servers))
        (meet team demands (.initial environment files servers)) ∧
      List.Forall₂ (Reply.Same (owns i))
        (heard team i (demandsOf i demands) (.initial environment files servers))
        (heard team i demands (.initial environment files servers)) := by
  have hstart : InCompany team (fun _ => []) (fun _ => .initial environment files servers)
      (.initial environment files servers) :=
    ⟨fun i => initial_abreast (team i) environment files servers,
      fun _ _ _ => List.disjoint_nil_left _⟩
  obtain ⟨owns, -, hend, hheard⟩ := hstart.meet hteam demands
  exact ⟨owns, hend.disjoint, fun i => ⟨hend.abreast i, hheard i⟩⟩

end Teams

namespace TwoClasses

/-- Two coordinators on one tree. -/
def pair : Bool → Coordinator
  | false => coordinator
  | true => { coordinator with
      name := "other"
      backend := { Backend.memory "OtherConnection" with name := "OTHER", server := "OTHER" } }

/-- Both use the same class; the second one is ahead, and is done with the class before the first.
-/
def crossing : List (Demand Bool) :=
  [⟨false, alone, .declare {}⟩, ⟨true, alone, .declare {}⟩, ⟨true, alone, .resolve⟩,
    ⟨false, alone, .resolve⟩, ⟨true, alone, .afterAll⟩, ⟨false, alone, .resolveParams⟩]

theorem pair_separate : Separate pair where
  name := Bool.injective_iff.mpr (by decide)
  backend := Bool.injective_iff.mpr (by decide)
  server := Bool.injective_iff.mpr (by decide)

/-- The class is bound to the first handle of the first coordinator, which is the second one of the
run. -/
theorem crossing_renumbers :
    Separate pair ∧
      coordinator.binding? (meet pair (demandsOf false crossing) (.initial {} {} [])) alone =
        some ⟨0, .owned⟩ ∧
      coordinator.binding? (meet pair crossing (.initial {} {} [])) alone = some ⟨1, .owned⟩ ∧
      ∃ own : Renumbering, Abreast coordinator own
          (meet pair (demandsOf false crossing) (.initial {} {} []))
          (meet pair crossing (.initial {} {} [])) ∧
        List.Forall₂ (Reply.Same own)
          (heard pair false (demandsOf false crossing) (.initial {} {} []))
          (heard pair false crossing (.initial {} {} [])) := by
  obtain ⟨owns, -, hsame⟩ := backends_do_not_interfere pair_separate crossing {} {} []
  exact ⟨pair_separate, rfl, rfl, owns false, hsame false⟩

end TwoClasses

end ScopedResources.Lifecycle
