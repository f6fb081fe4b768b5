import Mathlib.Algebra.Ring.Nat
import DeviceCopy.Effect

/-!
# What effects keep, and what they are allowed to answer

A property of the world that an effect keeps, however it ends. Effects put together from parts keep
what all of their parts keep.

A program is a list of requests carried out one after the other (`Effect.performAll`). If each is
answered in a way that a specification allows, then so is the whole program.
-/

set_option autoImplicit false

namespace DeviceCopy

namespace Effect

variable {World : Type} {α β : Type} {P : World → Prop}

/-- However an effect ends, it leaves the world with a property it had before. -/
def Keeps (P : World → Prop) (e : Effect World α) : Prop := ∀ w, P w → P (e.perform w).2

theorem Keeps.after {e : Effect World α} (h : Keeps P e) {w w' : World} {answer : Except Failure α}
    (hperform : e.perform w = (answer, w')) (hw : P w) : P w' := by
  have hkept := h w hw
  rw [hperform] at hkept
  exact hkept

theorem Keeps.pure (a : α) : Keeps P (pure a : Effect World α) := fun _ h => h

theorem Keeps.fail (e : Error) : Keeps P (fail e : Effect World α) := fun _ h => h

theorem Keeps.giveUp (f : Fault) : Keeps P (giveUp f : Effect World α) := fun _ h => h

theorem Keeps.inspect (f : World → α) : Keeps P (inspect f) := fun _ h => h

theorem Keeps.update {f : World → World} (h : ∀ w, P w → P (f w)) : Keeps P (update f) := h

theorem Keeps.updateGet {f : World → α × World} (h : ∀ w, P w → P (f w).2) : Keeps P (updateGet f) := h

theorem Keeps.answer (result : Except Error α) : Keeps P (answer result : Effect World α) := by
  cases result with
  | ok a => exact .pure a
  | error e => exact .fail e

theorem Keeps.checked (result : Checked α) : Keeps P (checked result : Effect World α) := by
  cases result with
  | ok a => exact .pure a
  | error f => exact .giveUp f

theorem Keeps.bind {e : Effect World α} {next : α → Effect World β} (h : Keeps P e)
    (hnext : ∀ a, Keeps P (next a)) : Keeps P (e >>= next) := by
  intro w hw
  have hfirst := h w hw
  rw [perform_bind]
  -- The second effect starts only where the first has answered.
  cases hanswer : e.perform w with
  | mk answer between =>
    rw [hanswer] at hfirst
    cases answer with
    | ok a => exact hnext a between hfirst
    | error failure => exact hfirst

theorem Keeps.forM {γ : Type} {f : γ → Effect World Unit} (h : ∀ x, Keeps P (f x)) (xs : List γ) :
    Keeps P (xs.forM f) := by
  induction xs with
  | nil => exact .pure ()
  | cons x rest ih => exact .bind (h x) (fun _ => ih)

/-! ## How effects can fail -/

section Failing

variable {allowed : Failure → Prop}

/-- An effect keeps a property of the world, and from worlds that have it fails in allowed ways only. -/
def FailsAs (P : World → Prop) (allowed : Failure → Prop) (e : Effect World α) : Prop :=
  ∀ w, P w → P (e.perform w).2 ∧ ∀ failure, (e.perform w).1 = .error failure → allowed failure

theorem FailsAs.of_total {e : Effect World α} (h : Keeps P e)
    (hok : ∀ w, ∃ a, (e.perform w).1 = .ok a) : FailsAs P allowed e := by
  intro w hw
  refine ⟨h w hw, fun failure hfailure => ?_⟩
  obtain ⟨a, ha⟩ := hok w
  rw [ha] at hfailure
  cases hfailure

theorem FailsAs.pure (a : α) : FailsAs P allowed (pure a : Effect World α) :=
  .of_total (.pure a) (fun _ => ⟨a, rfl⟩)

theorem FailsAs.update {f : World → World} (h : ∀ w, P w → P (f w)) :
    FailsAs P allowed (Effect.update f) :=
  .of_total h (fun _ => ⟨(), rfl⟩)

theorem FailsAs.fail {e : Error} (h : allowed (.error e)) :
    FailsAs P allowed (fail e : Effect World α) := by
  refine fun w hw => ⟨hw, fun failure hfailure => ?_⟩
  cases hfailure
  exact h

theorem FailsAs.giveUp {f : Fault} (h : allowed (.fault f)) :
    FailsAs P allowed (giveUp f : Effect World α) := by
  refine fun w hw => ⟨hw, fun failure hfailure => ?_⟩
  cases hfailure
  exact h

theorem FailsAs.bind {e : Effect World α} {next : α → Effect World β} (h : FailsAs P allowed e)
    (hnext : ∀ a, FailsAs P allowed (next a)) : FailsAs P allowed (e >>= next) := by
  intro w hw
  obtain ⟨hfirst, hallowed⟩ := h w hw
  rw [perform_bind]
  cases hanswer : e.perform w with
  | mk answer between =>
    rw [hanswer] at hfirst hallowed
    cases answer with
    | ok a => exact hnext a between hfirst
    | error failure =>
      refine ⟨hfirst, fun failure' hfailure => ?_⟩
      cases hfailure
      exact hallowed failure rfl

theorem FailsAs.forM {γ : Type} {f : γ → Effect World Unit} (h : ∀ x, FailsAs P allowed (f x))
    (xs : List γ) : FailsAs P allowed (xs.forM f) := by
  induction xs with
  | nil => exact .pure ()
  | cons x rest ih => exact .bind (h x) (fun _ => ih)

end Failing

/-! ## Requests in a row -/

section Rows

variable {Request Spec : Type}

/-- Requests carried out one after the other. One that fails does not keep the next from its turn. -/
def performAll (effect : Request → Effect World α) :
    List Request → World → List (Except Failure α) × World
  | [], w => ([], w)
  | request :: rest, w =>
      let (answer, between) := (effect request).perform w
      let (answers, last) := performAll effect rest between
      (answer :: answers, last)

/-- What every request keeps, requests in a row keep. -/
theorem keeps_performAll {P : World → Prop} {effect : Request → Effect World α}
    (h : ∀ request, Keeps P (effect request)) (requests : List Request) {w : World} (hw : P w) :
    P (performAll effect requests w).2 := by
  induction requests generalizing w with
  | nil => exact hw
  | cons request rest ih => exact ih (h request w hw)

/-- Answers to requests in a row that a specification allows, one by one. -/
inductive Allowed (allows : Spec → Request → Except Failure α → Spec → Prop) :
    Spec → List Request → List (Except Failure α) → Spec → Prop
  | nil (spec : Spec) : Allowed allows spec [] [] spec
  | cons {spec between last : Spec} {request : Request} {rest : List Request}
      {answer : Except Failure α} {answers : List (Except Failure α)}
      (first : allows spec request answer between) (others : Allowed allows between rest answers last) :
      Allowed allows spec (request :: rest) (answer :: answers) last

/-- Each request may use up some of what the relation to the specification rests on. -/
theorem performAll_allowed {effect : Request → Effect World α}
    {allows : Spec → Request → Except Failure α → Spec → Prop} {cost : Request → Nat}
    {Related : Nat → Spec → World → Prop}
    (hstep : ∀ n request spec w, Related (n + cost request) spec w →
      ∃ spec', allows spec request ((effect request).perform w).1 spec' ∧
        Related n spec' ((effect request).perform w).2)
    (requests : List Request) (n : Nat) {spec : Spec} {w : World}
    (h : Related (n + (requests.map cost).sum) spec w) :
    ∃ spec', Allowed allows spec requests (performAll effect requests w).1 spec' ∧
      Related n spec' (performAll effect requests w).2 := by
  induction requests generalizing spec w with
  | nil => exact ⟨spec, .nil spec, h⟩
  | cons request rest ih =>
    have hcost : n + ((request :: rest).map cost).sum = n + (rest.map cost).sum + cost request := by
      rw [List.map_cons, List.sum_cons]
      omega
    rw [hcost] at h
    obtain ⟨between, hfirst, hbetween⟩ := hstep _ request spec w h
    obtain ⟨last, hothers, hlast⟩ := ih hbetween
    exact ⟨last, .cons hfirst hothers, hlast⟩

/-- What every allowed answer keeps, all of them keep. Each request may use up some of it. -/
theorem Allowed.keeps {allows : Spec → Request → Except Failure α → Spec → Prop} {cost : Request → Nat}
    {P : Nat → Spec → Prop}
    (hstep : ∀ n {request answer spec spec'}, allows spec request answer spec' →
      P (n + cost request) spec → P n spec')
    {requests : List Request} {answers : List (Except Failure α)} {spec last : Spec}
    (h : Allowed allows spec requests answers last) (n : Nat)
    (hstart : P (n + (requests.map cost).sum) spec) : P n last := by
  induction h with
  | nil spec => exact hstart
  | @cons spec between last request rest answer answers first _ ih =>
    have hcost : n + ((request :: rest).map cost).sum = n + (rest.map cost).sum + cost request := by
      rw [List.map_cons, List.sum_cons]
      omega
    rw [hcost] at hstart
    exact ih (hstep _ first hstart)

theorem Allowed.preserves {allows : Spec → Request → Except Failure α → Spec → Prop} {P : Spec → Prop}
    (hstep : ∀ {request answer spec spec'}, allows spec request answer spec' → P spec → P spec')
    {requests : List Request} {answers : List (Except Failure α)} {spec last : Spec}
    (h : Allowed allows spec requests answers last) (hstart : P spec) : P last := by
  induction h with
  | nil spec => exact hstart
  | cons first _ ih => exact ih (hstep first hstart)

end Rows

end Effect

end DeviceCopy
