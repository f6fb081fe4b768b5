import DeviceCopy.Error

/-!
# Effects on a world

An operation on a world either succeeds with a value or fails, and in both cases it leaves the world
in some state. Nothing is undone on failure: a caller who wants an operation to have no effect when
it fails has to arrange for that, and it shows in the definition.
-/

set_option autoImplicit false

namespace DeviceCopy

/-- An operation on a world that may fail. What it did before failing stays done. -/
abbrev Effect (World : Type) := ExceptT Failure (StateM World)

namespace Effect

variable {World : Type} {α : Type}

/-- An effect given as a function on the world. -/
def ofFun (f : World → Except Failure α × World) : Effect World α := f

def perform (e : Effect World α) (w : World) : Except Failure α × World := e w

def fail (e : Error) : Effect World α := throw (.error e)

def giveUp (f : Fault) : Effect World α := throw (.fault f)

def update (f : World → World) : Effect World Unit := ofFun (fun w => (.ok (), f w))

/-- Change the world and answer with something about the change. -/
def updateGet (f : World → α × World) : Effect World α :=
  ofFun (fun w =>
    let (a, w) := f w
    (.ok a, w))

def inspect (f : World → α) : Effect World α := ofFun (fun w => (.ok (f w), w))

def checked : Checked α → Effect World α
  | .ok a => pure a
  | .error f => giveUp f

/-- Go on with a result that may be an error. -/
def answer : Except Error α → Effect World α
  | .ok a => pure a
  | .error e => fail e

/-- Answer with an error when a condition holds. -/
def failIf (condition : Bool) (e : Error) : Effect World Unit :=
  if condition then fail e else pure ()

/-! ## What carrying an effect out does -/

@[simp] theorem perform_ofFun (f : World → Except Failure α × World) (w : World) :
    (ofFun f).perform w = f w := rfl

@[simp] theorem perform_pure (a : α) (w : World) :
    (pure a : Effect World α).perform w = (.ok a, w) := rfl

@[simp] theorem perform_fail (e : Error) (w : World) :
    (fail e : Effect World α).perform w = (.error (.error e), w) := rfl

@[simp] theorem perform_giveUp (f : Fault) (w : World) :
    (giveUp f : Effect World α).perform w = (.error (.fault f), w) := rfl

@[simp] theorem perform_update (f : World → World) (w : World) :
    (update f).perform w = (.ok (), f w) := rfl

@[simp] theorem perform_updateGet (f : World → α × World) (w : World) :
    (updateGet f).perform w = (.ok (f w).1, (f w).2) := rfl

@[simp] theorem perform_inspect (f : World → α) (w : World) :
    (inspect f).perform w = (.ok (f w), w) := rfl

/-- Of two effects in sequence the second starts where the first succeeded, and what the first did
stays done where it failed. -/
theorem perform_bind {β : Type} (e : Effect World α) (next : α → Effect World β) (w : World) :
    (e >>= next).perform w =
      match e.perform w with
      | (.ok a, w) => (next a).perform w
      | (.error failure, w) => (.error failure, w) := by
  -- The bind of the error layer, with both layers opened.
  change (ExceptT.bindCont next (e w).1) (e w).2 = _
  rw [perform]
  cases e w with
  | mk answer rest =>
    cases answer with
    | ok a => rfl
    | error failure => rfl

theorem perform_bind_ok {β : Type} {e : Effect World α} {next : α → Effect World β} {w w' : World}
    {a : α} (h : e.perform w = (.ok a, w')) :
    (e >>= next).perform w = (next a).perform w' := by
  rw [perform_bind, h]

theorem perform_bind_error {β : Type} {e : Effect World α} {next : α → Effect World β}
    {w w' : World} {failure : Failure} (h : e.perform w = (.error failure, w')) :
    (e >>= next).perform w = (.error failure, w') := by
  rw [perform_bind, h]

end Effect

end DeviceCopy
