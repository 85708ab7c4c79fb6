import Screenlock.Service.Events

/-! # Calls of the service over IPC

A proxy writes a parcel, `SendRequest` carries it, the stub reads it and calls
the service. Each of these can fail. The stub drops what its handlers return, so
a parcel it cannot read is answered like any other, with an empty reply.
-/

namespace Screenlock

/-- `SCREENLOCK_ERR_OFFSET`. It contains the module id 4, so it is not 0. -/
structure ErrOffset where
  value : Int
  positive : 0 < value

/-- The offset that `ErrCodeOffset` makes for a subsystem. -/
def ErrOffset.ofSubsystem (subsystem : Nat) : ErrOffset where
  value := subsystem * 2 ^ 21 + 4 * 2 ^ 16
  positive := by omega

/-- The value of an error code. -/
def ScreenLockError.toInt (offset : ErrOffset) : ScreenLockError → Int
  | .ok => offset.value
  | .saDied => offset.value + 1
  | .readParcelError => offset.value + 2
  | .writeParcelError => offset.value + 3
  | .publishFail => offset.value + 4
  | .transactError => offset.value + 5
  | .dealFailed => offset.value + 6
  | .parametersInvalid => offset.value + 7
  | .setRtcFailed => offset.value + 8
  | .notFound => offset.value + 9
  | .noPermission => offset.value + 10
  | .nullptr => offset.value + 11
  | .sendRequestFailed => offset.value + 12
  | .notSystemApp => offset.value + 13
  | .notFocusApp => offset.value + 14
  | .userIdInvalid => offset.value + 15

theorem ScreenLockError.toInt_pos (offset : ErrOffset) (code : ScreenLockError) :
    0 < code.toInt offset := by
  have hpositive := offset.positive
  cases code <;> simp only [toInt] <;> omega

theorem ScreenLockError.toInt_eq_add (offset : ErrOffset) (code : ScreenLockError) :
    code.toInt offset = offset.value + code.ctorIdx := by
  cases code <;> simp [toInt] <;> rfl

theorem ScreenLockError.toInt_injective (offset : ErrOffset) :
    Function.Injective (ScreenLockError.toInt offset) := by
  intro first second heq
  rw [toInt_eq_add, toInt_eq_add] at heq
  have hindex : first.ctorIdx = second.ctorIdx := by omega
  rw [← ScreenLockError.ofNat_ctorIdx first, hindex, ScreenLockError.ofNat_ctorIdx]

theorem ScreenLockError.toInt_eq_ok_iff (offset : ErrOffset) (code : ScreenLockError) :
    code.toInt offset = ScreenLockError.ok.toInt offset ↔ code = .ok :=
  (toInt_injective offset).eq_iff

/-- How far a call with a remote object gets. -/
structure Passage where
  /-- `GetScreenLockManagerProxy` finds the service, if it is asked. -/
  findsProxy : Bool
  writesInterfaceToken : Bool
  writesRemoteObject : Bool
  sendsRequest : Bool
  readsRemoteObject : Bool
  castsInterface : Bool
  deriving DecidableEq, Repr

/-- A passage without a failure. -/
def Passage.clear : Passage := ⟨true, true, true, true, true, true⟩

namespace Passage

variable {σ : Type*} (passage : Passage) (offset : ErrOffset) (method : σ → ScreenLockError × σ)
  (service : σ)

/-- The parcel arrives at the stub. -/
def Arrives : Prop :=
  passage.writesInterfaceToken = true ∧ passage.writesRemoteObject = true ∧
    passage.sendsRequest = true

/-- The stub finds in it the object it is to pass on. -/
def Readable : Prop :=
  passage.readsRemoteObject = true ∧ passage.castsInterface = true

instance : Decidable passage.Arrives := inferInstanceAs (Decidable (_ ∧ _))

instance : Decidable passage.Readable := inferInstanceAs (Decidable (_ ∧ _))

/-- `ReadInt32` of a reply. -/
def readInt32 (reply : List Int) : Int := reply.headD 0

/-- `OnRemoteRequest` with one of the handlers that read a remote object: the
reply. A handler that refuses the object has written none, and its error is lost. -/
def onRemoteRequest : List Int × σ :=
  if passage.Readable then
    ([(method service).1.toInt offset], (method service).2)
  else ([], service)

/-- A proxy method that passes a remote object on, for what the stub makes of
the parcel. Without the interface token the stub knows the request for a foreign
one, and `SendRequest` fails. -/
def transact (handled : List Int × σ) : Int × σ :=
  if passage.writesRemoteObject = false then
    (ScreenLockError.writeParcelError.toInt offset, service)
  else if passage.sendsRequest = false ∨ passage.writesInterfaceToken = false then
    (ScreenLockError.sendRequestFailed.toInt offset, service)
  else (readInt32 handled.1, handled.2)

def sendRequest : Int × σ :=
  passage.transact offset service (passage.onRemoteRequest offset method service)

variable {passage} {offset} {method} {service}

theorem transact_of_not_arrives (handled : List Int × σ) (hlost : ¬ passage.Arrives) :
    ∃ code, (code = ScreenLockError.writeParcelError ∨ code = ScreenLockError.sendRequestFailed) ∧
      passage.transact offset service handled = (code.toInt offset, service) := by
  unfold transact
  split
  · exact ⟨.writeParcelError, Or.inl rfl, rfl⟩
  · next hwrites =>
      split
      · exact ⟨.sendRequestFailed, Or.inr rfl, rfl⟩
      · next hsends =>
          rw [not_or, Bool.not_eq_false, Bool.not_eq_false] at hsends
          rw [Bool.not_eq_false] at hwrites
          exact absurd ⟨hsends.2, hwrites, hsends.1⟩ hlost

theorem transact_of_arrives (handled : List Int × σ) (harrives : passage.Arrives) :
    passage.transact offset service handled = (readInt32 handled.1, handled.2) := by
  unfold transact
  rw [if_neg (by simp [harrives.2.1]), if_neg (by simp [harrives.1, harrives.2.2])]

theorem sendRequest_of_arrives (harrives : passage.Arrives) :
    passage.sendRequest offset method service =
      if passage.Readable then ((method service).1.toInt offset, (method service).2)
      else (0, service) := by
  unfold sendRequest onRemoteRequest
  rw [transact_of_arrives _ harrives]
  split <;> rfl

/-- A call is answered with `E_SCREENLOCK_OK` by the service only. -/
theorem sendRequest_ok_iff :
    (passage.sendRequest offset method service).1 = ScreenLockError.ok.toInt offset ↔
      passage.Arrives ∧ passage.Readable ∧ (method service).1 = .ok := by
  by_cases harrives : passage.Arrives
  · rw [sendRequest_of_arrives harrives]
    split
    · next hreadable =>
        rw [ScreenLockError.toInt_eq_ok_iff]
        simp [harrives, hreadable]
    · next hunreadable =>
        refine iff_of_false (fun heq => ?_) (fun hall => hunreadable hall.2.1)
        exact absurd heq.symm (ScreenLockError.toInt_pos offset .ok).ne'
  · obtain ⟨code, hcode, heq⟩ := @transact_of_not_arrives _ _ offset service
      (passage.onRemoteRequest offset method service) harrives
    rw [sendRequest, heq, ScreenLockError.toInt_eq_ok_iff]
    refine iff_of_false ?_ fun hall => harrives hall.1
    rcases hcode with rfl | rfl <;> exact ScreenLockError.noConfusion

/-- What is left of the service: what the method does, where it is reached. -/
theorem sendRequest_service :
    (passage.sendRequest offset method service).2 =
      if passage.Arrives ∧ passage.Readable then (method service).2 else service := by
  by_cases harrives : passage.Arrives
  · rw [sendRequest_of_arrives harrives]
    simp only [harrives, true_and]
    split <;> rfl
  · rw [if_neg fun hall => harrives hall.1]
    obtain ⟨code, _, heq⟩ := @transact_of_not_arrives _ _ offset service
      (passage.onRemoteRequest offset method service) harrives
    rw [sendRequest, heq]

end Passage

end Screenlock
