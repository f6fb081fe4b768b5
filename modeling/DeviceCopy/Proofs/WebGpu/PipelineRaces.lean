import DeviceCopy.Proofs.Tables
import DeviceCopy.WebGpu.PipelineCache
import Mathlib.Logic.Function.Basic

/-!
# Threads around the pipeline cache

Any number of threads ask one cache for pipelines, under whatever keys they like. `Builders` is the
cache with where each of them stands. A turn of a thread ends where another can come in between: the
pipeline is looked up in one turn, the module required in the next, the pipeline built in a third, with
nobody kept out, and entered in a fourth. A thread that is left alone does what the request does in one
piece (`run_alone`).

Two threads may both find a key missing and both build its pipeline. Which of the two stays is settled
when they are entered, and both go on with that one (`pipelines_agree`). The history says what has been
required and built, the latest deed first; no turn reads it.
-/

set_option autoImplicit false

namespace DeviceCopy

namespace WebGpu

namespace PipelineCache

variable {c : PipelineCache} {key : PipelineKey}

theorem pipeline_of_present {present : Pipeline} (h : c.lookup key = some present) :
    c.pipeline key = ((present, false), c) := by
  simp only [pipeline, h]

theorem pipeline_of_missing (h : c.lookup key = none) :
    c.pipeline key =
      let required := c.requireModule key.shader
      let fresh := required.2.build key
      let entered := fresh.2.insertOrReuse fresh.1
      ((entered.1, required.1), entered.2) := by
  simp only [pipeline, h]

end PipelineCache

namespace Builders

/-- How far a thread has got with its current request. -/
inductive Stage
  | idle
  | missed (key : PipelineKey)
  | building (key : PipelineKey)
  | entering (pipeline : Pipeline)

/-- A thread with the keys it has not asked for yet and the answers it has got, the latest first. -/
structure Thread where
  todo : List PipelineKey
  stage : Stage
  answers : List (PipelineKey × Pipeline)

inductive Deed
  /-- The module of a shader was required, and had to be compiled or was there. -/
  | required (shader : Shader) (compiled : Bool)
  | built (pipeline : Pipeline)
  deriving DecidableEq, Repr

/-- What a thread does when it is its turn: where it stands then, what becomes of the cache, and what
has happened. -/
def Thread.turn (t : Thread) (c : PipelineCache) : Thread × PipelineCache × List Deed :=
  match t.stage with
  | .idle =>
      match t.todo with
      | [] => (t, c, [])
      | key :: rest =>
          match c.lookup key with
          | some present => (⟨rest, .idle, (key, present) :: t.answers⟩, c, [])
          | none => (⟨rest, .missed key, t.answers⟩, c, [])
  | .missed key =>
      let (compiled, c) := c.requireModule key.shader
      (⟨t.todo, .building key, t.answers⟩, c, [.required key.shader compiled])
  | .building key =>
      let (fresh, c) := c.build key
      (⟨t.todo, .entering fresh, t.answers⟩, c, [.built fresh])
  | .entering pipeline =>
      let (entered, c) := c.insertOrReuse pipeline
      (⟨t.todo, .idle, (pipeline.key, entered) :: t.answers⟩, c, [])

end Builders

/-- The cache and the threads that use it. -/
structure Builders (Name : Type) where
  cache : PipelineCache
  threads : Name → Builders.Thread
  history : List Builders.Deed

namespace Builders

variable {Name : Type}

/-- Threads about to ask for their first pipelines, while nothing is cached. -/
def start (programs : Name → List PipelineKey) : Builders Name :=
  { cache := .empty, threads := fun i => ⟨programs i, .idle, []⟩, history := [] }

variable [DecidableEq Name]

/-- One turn of a thread. -/
def step (s : Builders Name) (i : Name) : Builders Name :=
  let (t, cache, deeds) := (s.threads i).turn s.cache
  { cache, threads := Function.update s.threads i t, history := deeds ++ s.history }

/-- Take turns in a given order. -/
def run (s : Builders Name) (order : List Name) : Builders Name := order.foldl step s

/-! ## What a turn can be -/

/-- Everything a thread can do in a turn. -/
inductive Move (c : PipelineCache) : Thread → Thread → PipelineCache → List Deed → Prop
  | stay {answers : List (PipelineKey × Pipeline)} :
      Move c ⟨[], .idle, answers⟩ ⟨[], .idle, answers⟩ c []
  | find {key : PipelineKey} {rest : List PipelineKey} {answers : List (PipelineKey × Pipeline)}
      {present : Pipeline} (found : c.lookup key = some present) :
      Move c ⟨key :: rest, .idle, answers⟩ ⟨rest, .idle, (key, present) :: answers⟩ c []
  | miss {key : PipelineKey} {rest : List PipelineKey} {answers : List (PipelineKey × Pipeline)} :
      Move c ⟨key :: rest, .idle, answers⟩ ⟨rest, .missed key, answers⟩ c []
  | reuseModule {key : PipelineKey} {rest : List PipelineKey}
      {answers : List (PipelineKey × Pipeline)} (known : key.shader ∈ c.modules) :
      Move c ⟨rest, .missed key, answers⟩ ⟨rest, .building key, answers⟩ c
        [.required key.shader false]
  | compile {key : PipelineKey} {rest : List PipelineKey}
      {answers : List (PipelineKey × Pipeline)} (unknown : key.shader ∉ c.modules) :
      Move c ⟨rest, .missed key, answers⟩ ⟨rest, .building key, answers⟩
        { c with modules := key.shader :: c.modules } [.required key.shader true]
  | build {key : PipelineKey} {rest : List PipelineKey} {answers : List (PipelineKey × Pipeline)} :
      Move c ⟨rest, .building key, answers⟩ ⟨rest, .entering ⟨key, c.built⟩, answers⟩
        { c with built := c.built + 1 } [.built ⟨key, c.built⟩]
  | reuse {pipeline present : Pipeline} {rest : List PipelineKey}
      {answers : List (PipelineKey × Pipeline)} (found : c.lookup pipeline.key = some present) :
      Move c ⟨rest, .entering pipeline, answers⟩
        ⟨rest, .idle, (pipeline.key, present) :: answers⟩ c []
  | enter {pipeline : Pipeline} {rest : List PipelineKey} {answers : List (PipelineKey × Pipeline)}
      (missing : c.lookup pipeline.key = none) :
      Move c ⟨rest, .entering pipeline, answers⟩
        ⟨rest, .idle, (pipeline.key, pipeline) :: answers⟩
        { c with pipelines := (pipeline.key, pipeline) :: c.pipelines } []

theorem move_turn (t : Thread) (c : PipelineCache) :
    Move c t (t.turn c).1 (t.turn c).2.1 (t.turn c).2.2 := by
  obtain ⟨todo, stage, answers⟩ := t
  unfold Thread.turn
  cases stage with
  | idle =>
    cases todo with
    | nil => exact .stay
    | cons key rest =>
      cases hfound : c.lookup key with
      | some present =>
        simp only [hfound]
        exact .find hfound
      | none =>
        simp only [hfound]
        exact .miss
  | missed key =>
    simp only [PipelineCache.requireModule]
    split
    · next known => exact .reuseModule known
    · next unknown => exact .compile unknown
  | building key => exact .build
  | entering pipeline =>
    simp only [PipelineCache.insertOrReuse]
    cases hfound : c.lookup pipeline.key with
    | some present => exact .reuse hfound
    | none => exact .enter hfound

theorem step_moves (s : Builders Name) (i : Name) :
    ∃ t c deeds, Move s.cache (s.threads i) t c deeds ∧
      s.step i = ⟨c, Function.update s.threads i t, deeds ++ s.history⟩ :=
  ⟨_, _, _, move_turn (s.threads i) s.cache, rfl⟩

/-! ## Threads that are left alone -/

section Alone

variable {s : Builders Name} {i : Name}

theorem step_of_turn {t t' : Thread} {c : PipelineCache} {deeds : List Deed} (h : s.threads i = t)
    (hturn : t.turn s.cache = (t', c, deeds)) :
    (s.step i).cache = c ∧ (s.step i).threads i = t' := by
  unfold step
  rw [h, hturn]
  exact ⟨rfl, Function.update_self i t' s.threads⟩

/-- A thread with nothing left to do changes nothing. -/
theorem step_of_done {answers : List (PipelineKey × Pipeline)}
    (h : s.threads i = ⟨[], .idle, answers⟩) : s.step i = s := by
  unfold step
  rw [h]
  have hthreads : Function.update s.threads i ⟨[], .idle, answers⟩ = s.threads := by
    rw [← h, Function.update_eq_self]
  simp only [Thread.turn, hthreads, List.nil_append]

/-- A request that nobody comes in between is one in one piece. -/
theorem run_alone {key : PipelineKey} {answers : List (PipelineKey × Pipeline)}
    (h : s.threads i = ⟨[key], .idle, answers⟩) :
    let answered := s.cache.pipeline key
    (s.run [i, i, i, i]).cache = answered.2 ∧
      (s.run [i, i, i, i]).threads i = ⟨[], .idle, (key, answered.1.1) :: answers⟩ := by
  intro answered
  have hrun : s.run [i, i, i, i] = (((s.step i).step i).step i).step i := rfl
  rw [hrun]
  cases hlookup : s.cache.lookup key with
  | some present =>
    have hanswered : answered = _ := PipelineCache.pipeline_of_present hlookup
    obtain ⟨hcache, hfound⟩ := step_of_turn h (by simp only [Thread.turn, hlookup]; rfl)
    rw [step_of_done hfound, step_of_done hfound, step_of_done hfound, hanswered]
    exact ⟨hcache, hfound⟩
  | none =>
    have hanswered : answered = _ := PipelineCache.pipeline_of_missing hlookup
    obtain ⟨hcache, hmissed⟩ := step_of_turn h (by simp only [Thread.turn, hlookup]; rfl)
    obtain ⟨hcompiled, hbuilding⟩ := step_of_turn hmissed rfl
    obtain ⟨hbuilt, hentering⟩ := step_of_turn hbuilding rfl
    obtain ⟨hentered, hlast⟩ := step_of_turn hentering rfl
    rw [hbuilt, hcompiled, hcache] at hentered hlast
    rw [hanswered]
    exact ⟨hentered, hlast⟩

end Alone

/-! ## What stays in the cache -/

end Builders

/-- Whatever one cache has, the other has as well. -/
structure PipelineCache.Grows (c c' : PipelineCache) : Prop where
  modules : ∀ shader ∈ c.modules, shader ∈ c'.modules
  entries : ∀ key pipeline, c.lookup key = some pipeline → c'.lookup key = some pipeline

namespace PipelineCache.Grows

variable {c c' c'' : PipelineCache}

theorem refl (c : PipelineCache) : c.Grows c := ⟨fun _ h => h, fun _ _ h => h⟩

theorem trans (h : c.Grows c') (h' : c'.Grows c'') : c.Grows c'' :=
  ⟨fun shader hshader => h'.modules shader (h.modules shader hshader),
    fun key pipeline hentry => h'.entries key pipeline (h.entries key pipeline hentry)⟩

end PipelineCache.Grows

namespace Builders

theorem Move.grows {c c' : PipelineCache} {t t' : Thread} {deeds : List Deed}
    (h : Move c t t' c' deeds) : c.Grows c' := by
  cases h with
  | stay | find _ | miss | reuseModule _ | build | reuse _ => exact ⟨fun _ h => h, fun _ _ h => h⟩
  | compile _ => exact ⟨fun _ h => List.mem_cons_of_mem _ h, fun _ _ h => h⟩
  | @enter pipeline _ _ missing =>
    refine ⟨fun _ h => h, fun key entered hentry => ?_⟩
    -- The new entry hides none, since its key had none.
    have hother : key ≠ pipeline.key := by
      rintro rfl
      rw [missing] at hentry
      cases hentry
    exact (Table.lookup_cons _ _ _).trans ((if_neg hother).trans hentry)

variable {Name : Type} [DecidableEq Name]

theorem grows_step (s : Builders Name) (i : Name) : s.cache.Grows (s.step i).cache := by
  obtain ⟨t, c, deeds, hmove, hstep⟩ := s.step_moves i
  rw [hstep]
  exact hmove.grows

theorem grows_run (s : Builders Name) (order : List Name) : s.cache.Grows (s.run order).cache := by
  induction order generalizing s with
  | nil => exact .refl _
  | cons i rest ih => exact (grows_step s i).trans (ih _)

/-! ## What turns preserve -/

/-- The pipeline that was built. -/
def built? : Deed → Option Pipeline
  | .built pipeline => some pipeline
  | .required _ _ => none

/-- A thread that builds a pipeline has its module, one that enters a pipeline has built it, and every
answer is the entry of its key. -/
structure Thread.Sound (c : PipelineCache) (history : List Deed) (t : Thread) : Prop where
  building : ∀ key, t.stage = .building key → key.shader ∈ c.modules
  entering : ∀ pipeline, t.stage = .entering pipeline → .built pipeline ∈ history
  answers : ∀ answer ∈ t.answers, c.lookup answer.1 = some answer.2

theorem Thread.Sound.mono {c c' : PipelineCache} {history : List Deed} {t : Thread}
    (h : t.Sound c history) (hgrows : c.Grows c') (deeds : List Deed) :
    t.Sound c' (deeds ++ history) :=
  ⟨fun key hstage => hgrows.modules _ (h.building key hstage),
    fun pipeline hstage => List.mem_append_right _ (h.entering pipeline hstage),
    fun answer hanswer => hgrows.entries _ _ (h.answers answer hanswer)⟩

/-- What the cache holds is what the history says: the modules are those that were compiled, each of
them once, and every entry was built under its own key. -/
structure Filled (c : PipelineCache) (history : List Deed) : Prop where
  once : ∀ shader, history.count (.required shader true) = if shader ∈ c.modules then 1 else 0
  required : ∀ shader compiled, .required shader compiled ∈ history → shader ∈ c.modules
  built : ∀ pipeline, .built pipeline ∈ history →
    pipeline.serial < c.built ∧ pipeline.key.shader ∈ c.modules
  distinct : (history.filterMap built?).Nodup
  entries : ∀ key pipeline, c.lookup key = some pipeline →
    pipeline.key = key ∧ .built pipeline ∈ history

namespace Filled

variable {c : PipelineCache} {history : List Deed} {shader : Shader} {key : PipelineKey}
  {pipeline : Pipeline}

theorem count_eq_one (h : Filled c history) (hshader : shader ∈ c.modules) :
    history.count (.required shader true) = 1 :=
  (h.once shader).trans (if_pos hshader)

theorem count_le_one (h : Filled c history) (shader : Shader) :
    history.count (.required shader true) ≤ 1 := by
  rw [h.once shader]
  split
  · exact Nat.le_refl 1
  · exact Nat.zero_le 1

theorem entries_cons (h : Filled c history) (deed : Deed) (hentry : c.lookup key = some pipeline) :
    pipeline.key = key ∧ .built pipeline ∈ deed :: history := by
  obtain ⟨hkey, hbuilt⟩ := h.entries key pipeline hentry
  exact ⟨hkey, List.mem_cons_of_mem deed hbuilt⟩

theorem reuseModule (h : Filled c history) (known : shader ∈ c.modules) :
    Filled c (.required shader false :: history) where
  once other := by
    have hne : Deed.required shader false ≠ .required other true := nofun
    exact (List.count_cons_of_ne hne).trans (h.once other)
  required other compiled hmem := by
    rcases List.mem_cons.mp hmem with heq | hearlier
    · cases heq
      exact known
    · exact h.required other compiled hearlier
  built pipeline hmem := h.built pipeline ((List.mem_cons.mp hmem).resolve_left nofun)
  distinct := h.distinct
  entries _ _ hentry := h.entries_cons _ hentry

theorem compile (h : Filled c history) (unknown : shader ∉ c.modules) :
    Filled { c with modules := shader :: c.modules } (.required shader true :: history) where
  once other := by
    by_cases hother : other = shader
    · subst hother
      have hnever := h.once other
      rw [if_neg unknown] at hnever
      rw [List.count_cons_self, hnever, if_pos List.mem_cons_self]
    · have hne : Deed.required shader true ≠ .required other true := by
        rintro ⟨⟩
        exact hother rfl
      rw [List.count_cons_of_ne hne, h.once other]
      simp only [List.mem_cons, hother, false_or]
  required other compiled hmem := by
    rcases List.mem_cons.mp hmem with heq | hearlier
    · cases heq
      exact List.mem_cons_self
    · exact List.mem_cons_of_mem _ (h.required other compiled hearlier)
  built pipeline hmem := by
    obtain ⟨hserial, hmodule⟩ := h.built pipeline ((List.mem_cons.mp hmem).resolve_left nofun)
    exact ⟨hserial, List.mem_cons_of_mem _ hmodule⟩
  distinct := h.distinct
  entries _ _ hentry := h.entries_cons _ hentry

/-- The serial number of a pipeline tells it from all that were built before. -/
theorem build (h : Filled c history) (known : key.shader ∈ c.modules) :
    Filled { c with built := c.built + 1 } (.built ⟨key, c.built⟩ :: history) where
  once other := by
    have hne : Deed.built ⟨key, c.built⟩ ≠ .required other true := nofun
    exact (List.count_cons_of_ne hne).trans (h.once other)
  required other compiled hmem :=
    h.required other compiled ((List.mem_cons.mp hmem).resolve_left nofun)
  built pipeline hmem := by
    rcases List.mem_cons.mp hmem with heq | hearlier
    · cases heq
      exact ⟨Nat.lt_succ_self _, known⟩
    · obtain ⟨hserial, hmodule⟩ := h.built pipeline hearlier
      exact ⟨Nat.lt_succ_of_lt hserial, hmodule⟩
  distinct := by
    refine List.nodup_cons.mpr ⟨fun hmem => ?_, h.distinct⟩
    obtain ⟨deed, hdeed, hbuilt⟩ := List.mem_filterMap.mp hmem
    cases deed with
    | required shader compiled => cases hbuilt
    | built pipeline =>
      -- The count of the cache is past the serial of everything built so far.
      cases hbuilt
      exact Nat.lt_irrefl _ (h.built _ hdeed).1
  entries _ _ hentry := h.entries_cons _ hentry

theorem enter (h : Filled c history) (hbuilt : .built pipeline ∈ history) :
    Filled { c with pipelines := (pipeline.key, pipeline) :: c.pipelines } history where
  once := h.once
  required := h.required
  built := h.built
  distinct := h.distinct
  entries key entered hentry := by
    have hlookup := (Table.lookup_cons pipeline.key pipeline c.pipelines).symm.trans hentry
    split at hlookup
    · next heq =>
      cases hlookup
      exact ⟨heq.symm, hbuilt⟩
    · exact h.entries key entered hlookup

end Filled

/-- A thread that is done with a request has been answered with what is entered under its key. -/
theorem Thread.sound_of_answered {c : PipelineCache} {history : List Deed} {key : PipelineKey}
    {pipeline : Pipeline} {rest : List PipelineKey} {answers : List (PipelineKey × Pipeline)}
    (hanswers : ∀ answer ∈ answers, c.lookup answer.1 = some answer.2)
    (hentry : c.lookup key = some pipeline) :
    Thread.Sound c history ⟨rest, .idle, (key, pipeline) :: answers⟩ :=
  ⟨nofun, nofun, List.forall_mem_cons.mpr ⟨hentry, hanswers⟩⟩

theorem Filled.move {c c' : PipelineCache} {t t' : Thread} {deeds history : List Deed}
    (h : Filled c history) (ht : t.Sound c history) (hmove : Move c t t' c' deeds) :
    Filled c' (deeds ++ history) ∧ t'.Sound c' (deeds ++ history) := by
  -- What the thread has been answered before is still entered.
  have hanswers : ∀ answer ∈ t.answers, c'.lookup answer.1 = some answer.2 :=
    fun answer hanswer => hmove.grows.entries _ _ (ht.answers answer hanswer)
  cases hmove with
  | stay => exact ⟨h, ht⟩
  | find found => exact ⟨h, Thread.sound_of_answered hanswers found⟩
  | miss => exact ⟨h, nofun, nofun, hanswers⟩
  | reuseModule known =>
    refine ⟨h.reuseModule known, fun key hstage => ?_, nofun, hanswers⟩
    cases hstage
    exact known
  | compile unknown =>
    refine ⟨h.compile unknown, fun key hstage => ?_, nofun, hanswers⟩
    cases hstage
    exact List.mem_cons_self
  | @build key rest answers =>
    refine ⟨h.build (ht.building key rfl), nofun, fun pipeline hstage => ?_, hanswers⟩
    cases hstage
    exact List.mem_cons_self
  | reuse found => exact ⟨h, Thread.sound_of_answered hanswers found⟩
  | @enter pipeline rest answers missing =>
    have hentered := (Table.lookup_cons pipeline.key pipeline c.pipelines).trans (if_pos rfl)
    exact ⟨h.enter (ht.entering pipeline rfl), Thread.sound_of_answered hanswers hentered⟩

/-- What the history says of the cache is right, and every thread is sound. -/
structure Coherent (s : Builders Name) : Prop where
  filled : Filled s.cache s.history
  threads : ∀ i, (s.threads i).Sound s.cache s.history

omit [DecidableEq Name] in
theorem coherent_start (programs : Name → List PipelineKey) : (start programs).Coherent :=
  ⟨⟨fun _ => rfl, nofun, nofun, List.nodup_nil, nofun⟩, fun _ => ⟨nofun, nofun, nofun⟩⟩

theorem Coherent.step {s : Builders Name} (h : s.Coherent) (i : Name) : (s.step i).Coherent := by
  obtain ⟨t, c, deeds, hmove, hstep⟩ := s.step_moves i
  obtain ⟨hfilled, hsound⟩ := h.filled.move (h.threads i) hmove
  rw [hstep]
  refine ⟨hfilled, (Function.forall_update_iff s.threads _).mpr ⟨hsound, fun j _ => ?_⟩⟩
  exact (h.threads j).mono hmove.grows deeds

theorem Coherent.run {s : Builders Name} (h : s.Coherent) (order : List Name) :
    (s.run order).Coherent := by
  induction order generalizing s with
  | nil => exact h
  | cons i rest ih => exact ih (h.step i)

/-! ## Every request is answered -/

/-- The requests of a thread: those it has been answered, the current one, and those to come. -/
def Thread.program (t : Thread) : List PipelineKey :=
  (t.answers.map Prod.fst).reverse ++ (match t.stage with
    | .idle => t.todo
    | .missed key | .building key => key :: t.todo
    | .entering pipeline => pipeline.key :: t.todo)

/-- How many turns a thread still takes at most. -/
def Thread.turnsLeft (t : Thread) : Nat :=
  -- A look, the module, the pipeline and the entry for each key to come.
  4 * t.todo.length + (match t.stage with
    | .idle => 0
    | .missed _ => 3
    | .building _ => 2
    | .entering _ => 1)

theorem Thread.answered_of_turnsLeft {t : Thread} (h : t.turnsLeft = 0) :
    (t.answers.map Prod.fst).reverse = t.program := by
  obtain ⟨todo, stage, answers⟩ := t
  have htodo : todo.length = 0 := by
    simp only [turnsLeft] at h
    omega
  obtain rfl := List.eq_nil_of_length_eq_zero htodo
  cases stage with
  | idle => exact (List.append_nil _).symm
  | missed key => cases h
  | building key => cases h
  | entering pipeline => cases h

/-- A turn brings a thread closer to the end of its program, which stays the same. -/
theorem Move.advances {c c' : PipelineCache} {t t' : Thread} {deeds : List Deed}
    (h : Move c t t' c' deeds) :
    t'.program = t.program ∧ t'.turnsLeft ≤ t.turnsLeft - 1 := by
  cases h with
  | stay => exact ⟨rfl, Nat.zero_le _⟩
  | miss => exact ⟨rfl, Nat.le_of_eq (by simp only [Thread.turnsLeft, List.length_cons]; omega)⟩
  | reuseModule _ | compile _ | build => exact ⟨rfl, Nat.le_refl _⟩
  | find _ | reuse _ | enter _ =>
    refine ⟨by simp [Thread.program], ?_⟩
    simp only [Thread.turnsLeft, List.length_cons]
    omega

theorem program_run (s : Builders Name) (order : List Name) (i : Name) :
    ((s.run order).threads i).program = (s.threads i).program ∧
      ((s.run order).threads i).turnsLeft ≤ (s.threads i).turnsLeft - order.count i := by
  induction order generalizing s with
  | nil => exact ⟨rfl, Nat.le_refl _⟩
  | cons j rest ih =>
    obtain ⟨t, c, deeds, hmove, hstep⟩ := s.step_moves j
    obtain ⟨hprogram, hturns⟩ := hmove.advances
    obtain ⟨hlater, hlaterTurns⟩ := ih (s.step j)
    have hrun : s.run (j :: rest) = (s.step j).run rest := rfl
    rw [hrun]
    rw [hstep] at hlater hlaterTurns ⊢
    -- Turns of others neither help the thread nor hold it up.
    by_cases hturn : i = j
    · subst hturn
      simp only [Function.update_self] at hlater hlaterTurns
      rw [List.count_cons_self]
      exact ⟨hlater.trans hprogram, by omega⟩
    · simp only [Function.update_of_ne hturn] at hlater hlaterTurns
      rw [List.count_cons_of_ne (Ne.symm hturn)]
      exact ⟨hlater, hlaterTurns⟩

/-- Four turns are enough for a key, whatever the others do in between. -/
theorem answered_of_turns (programs : Name → List PipelineKey) {order : List Name} {i : Name}
    (hturns : 4 * (programs i).length ≤ order.count i) :
    ((((start programs).run order).threads i).answers.map Prod.fst).reverse = programs i := by
  obtain ⟨hprogram, hleft⟩ := program_run (start programs) order i
  have hbegin : ((start programs).threads i).turnsLeft = 4 * (programs i).length := rfl
  rw [hbegin, Nat.sub_eq_zero_of_le hturns] at hleft
  exact (Thread.answered_of_turnsLeft (Nat.le_zero.mp hleft)).trans hprogram

/-! ## Races -/

section Answers

variable {s : Builders Name} {i j : Name} {answer other : PipelineKey × Pipeline}

omit [DecidableEq Name] in
theorem Coherent.answer_built (h : s.Coherent) (hanswer : answer ∈ (s.threads i).answers) :
    answer.2.key = answer.1 ∧ .built answer.2 ∈ s.history :=
  h.filled.entries _ _ ((h.threads i).answers answer hanswer)

omit [DecidableEq Name] in
/-- Whichever threads have been answered, their pipelines are the same just if the keys are. -/
theorem Coherent.answer_eq_iff (h : s.Coherent) (hanswer : answer ∈ (s.threads i).answers)
    (hother : other ∈ (s.threads j).answers) : answer.1 = other.1 ↔ answer.2 = other.2 := by
  constructor
  · intro hkey
    -- Both answers are what is entered under the key now.
    have hentry := (h.threads i).answers answer hanswer
    rw [hkey, (h.threads j).answers other hother] at hentry
    exact (Option.some.inj hentry).symm
  · intro hpipeline
    rw [← (h.answer_built hanswer).1, hpipeline]
    exact (h.answer_built hother).1

end Answers

/-- Any number of threads ask for pipelines from the time on when nothing was cached, and take turns in
any order. A module is compiled once at most, and once if anyone has required it. Whoever has been
answered under a key has been answered with one and the same pipeline, built under that key with a
module that was compiled, even where several were built: no two pipelines that were built are the same.
What the cache has, every module and the entry of every key, it keeps. Nobody has to wait for anybody: a
thread that got four turns for each of its keys has been answered under all of them, one after the
other. -/
theorem pipelines_agree (programs : Name → List PipelineKey) (order : List Name) :
    let s := (start programs).run order
    (∀ shader, s.history.count (.required shader true) ≤ 1 ∧
      ((∃ compiled, .required shader compiled ∈ s.history) →
        s.history.count (.required shader true) = 1)) ∧
    (∀ i, ∀ answer ∈ (s.threads i).answers, ∀ j, ∀ other ∈ (s.threads j).answers,
      (answer.1 = other.1 ↔ answer.2 = other.2)) ∧
    (∀ i, ∀ answer ∈ (s.threads i).answers, answer.2.key = answer.1 ∧ .built answer.2 ∈ s.history ∧
      s.history.count (.required answer.1.shader true) = 1) ∧
    (s.history.filterMap built?).Nodup ∧
    (∀ more, s.cache.Grows (s.run more).cache) ∧
    ∀ i, 4 * (programs i).length ≤ order.count i →
      ((s.threads i).answers.map Prod.fst).reverse = programs i := by
  intro s
  have hcoherent : s.Coherent := (coherent_start programs).run order
  have hfilled := hcoherent.filled
  refine ⟨fun shader => ⟨hfilled.count_le_one shader, ?_⟩, ?_, ?_, hfilled.distinct, grows_run s, ?_⟩
  · rintro ⟨compiled, hrequired⟩
    exact hfilled.count_eq_one (hfilled.required shader compiled hrequired)
  · exact fun i answer hanswer j other hother => hcoherent.answer_eq_iff hanswer hother
  · intro i answer hanswer
    obtain ⟨hkey, hbuilt⟩ := hcoherent.answer_built hanswer
    exact ⟨hkey, hbuilt, hkey ▸ hfilled.count_eq_one (hfilled.built _ hbuilt).2⟩
  · exact fun i hturns => answered_of_turns programs hturns

/-- Two threads build the pipeline of one key at the same time: two were built, and both threads go on
with the one that was entered first. -/
example :
    let key : PipelineKey := ⟨.blocked 2, "blocked_copy"⟩
    let s := (start (fun _ : Fin 2 => [key])).run [0, 1, 0, 1, 0, 1, 1, 0]
    s.history = [.built ⟨key, 1⟩, .built ⟨key, 0⟩, .required (.blocked 2) false,
        .required (.blocked 2) true] ∧
      (s.threads 0).answers = [(key, ⟨key, 1⟩)] ∧ (s.threads 1).answers = [(key, ⟨key, 1⟩)] :=
  ⟨rfl, rfl, rfl⟩

end Builders

end WebGpu

end DeviceCopy
