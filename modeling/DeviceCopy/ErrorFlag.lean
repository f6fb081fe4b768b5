import DeviceCopy.Launch.Limits

/-!
# Sticky launch errors

A stream keeps the most recent launch error until somebody asks for it. A rejected launch does not
fail where it is enqueued: it leaves its report in the flag, and the next query hands the report
over and clears the flag. All clones of a client look at one flag, so a query may find the report of
another clone's launch.
-/

set_option autoImplicit false

namespace DeviceCopy

/-- The most recent launch error that nobody has asked for yet. -/
structure ErrorFlag where
  pending : Option Error
  deriving DecidableEq, Repr

namespace ErrorFlag

def clear : ErrorFlag := { pending := none }

/-- Leave a report, in place of one that nobody has asked for. -/
def record (_flag : ErrorFlag) (e : Error) : ErrorFlag := { pending := some e }

/-- Hand over the report and clear the flag. -/
def take (flag : ErrorFlag) : Except Error Unit × ErrorFlag :=
  match flag.pending with
  | some e => (.error e, clear)
  | none => (.ok (), clear)

def text (flag : ErrorFlag) : String :=
  s!"ErrorFlag \x7b pending: {flag.pending.isSome} \x7d"

@[simp] theorem take_clear : clear.take = (.ok (), clear) := rfl

@[simp] theorem take_record (flag : ErrorFlag) (e : Error) :
    (flag.record e).take = (.error e, clear) := rfl

end ErrorFlag

/-- The report on a launch that a device with the given limits rejects. -/
def launchRejection (backend kernel : String) (limits : Limits) (g : Geometry) : Option Error :=
  match limits.check g with
  | .ok () => none
  | .error e => some (.launchFailed backend kernel e.message)

theorem launchRejection_eq_none_iff {backend kernel : String} {limits : Limits} {g : Geometry} :
    launchRejection backend kernel limits g = none ↔ limits.Admits g := by
  unfold launchRejection Limits.check
  by_cases h : limits.Admits g <;> simp [h]

end DeviceCopy
