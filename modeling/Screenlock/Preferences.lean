import Mathlib.Tactic.Linarith

/-! # The preference store

`PreferencesUtil` over the native preferences: an image in memory that every
access reads and writes, and an image on disk that a flush overwrites. Each
access asks for the store again and may be refused it.
-/

namespace Screenlock

inductive PreferencesValue where
  | int (value : Int)
  | bool (value : Bool)
  deriving DecidableEq, Repr

def PreferencesValue.int? : PreferencesValue → Option Int
  | .int value => some value
  | .bool _ => none

def PreferencesValue.bool? : PreferencesValue → Option Bool
  | .int _ => none
  | .bool value => some value

inductive PreferencesErrno where
  | ok
  | error
  deriving DecidableEq, Repr

/-- How one access goes: whether `GetPreferences` yields a store, and whether
the write it is asked for succeeds. -/
structure PreferencesAccess where
  handle : Bool
  writes : Bool
  deriving DecidableEq, Repr

namespace PreferencesAccess

/-- Nothing fails. -/
def works : PreferencesAccess := ⟨true, true⟩

end PreferencesAccess

structure Preferences where
  memory : Std.TreeMap String PreferencesValue
  disk : Std.TreeMap String PreferencesValue

namespace Preferences

def empty : Preferences := ⟨∅, ∅⟩

/-- `Flush`: the disk image becomes the memory image. -/
def flush (store : Preferences) : Preferences :=
  { store with disk := store.memory }

/-- `SaveInt`, `SaveBool`: put the value, then flush whatever the put answered. -/
def save (access : PreferencesAccess) (key : String) (value : PreferencesValue)
    (store : Preferences) : PreferencesErrno × Preferences :=
  if access.handle then
    if access.writes then
      (.ok, flush { store with memory := store.memory.insert key value })
    else
      (.error, store.flush)
  else
    (.error, store)

def saveInt (access : PreferencesAccess) (key : String) (value : Int) (store : Preferences) :
    PreferencesErrno × Preferences :=
  store.save access key (.int value)

def saveBool (access : PreferencesAccess) (key : String) (value : Bool) (store : Preferences) :
    PreferencesErrno × Preferences :=
  store.save access key (.bool value)

/-- `ObtainInt`, `ObtainBool`: the value stored with the asked type, else the default. -/
def obtain {α : Type} (select : PreferencesValue → Option α) (access : PreferencesAccess)
    (key : String) (defValue : α) (store : Preferences) : α :=
  if access.handle then
    ((store.memory[key]?).bind select).getD defValue
  else
    defValue

def obtainInt (access : PreferencesAccess) (key : String) (defValue : Int)
    (store : Preferences) : Int :=
  store.obtain PreferencesValue.int? access key defValue

def obtainBool (access : PreferencesAccess) (key : String) (defValue : Bool)
    (store : Preferences) : Bool :=
  store.obtain PreferencesValue.bool? access key defValue

/-- `RemoveKey` deletes from memory and does not flush. -/
def removeKey (access : PreferencesAccess) (key : String) (store : Preferences) :
    PreferencesErrno × Preferences :=
  if access.handle then
    if access.writes then
      (.ok, { store with memory := store.memory.erase key })
    else
      (.error, store)
  else
    (.error, store)

/-- `Refresh` flushes. -/
def refresh (access : PreferencesAccess) (store : Preferences) : Preferences :=
  if access.handle then store.flush else store

@[simp] theorem refresh_memory (access : PreferencesAccess) (store : Preferences) :
    (store.refresh access).memory = store.memory := by
  unfold refresh
  split <;> rfl

theorem save_memory (access : PreferencesAccess) (key : String) (value : PreferencesValue)
    (store : Preferences) :
    (store.save access key value).2.memory =
      if access.handle && access.writes then store.memory.insert key value else store.memory := by
  unfold save
  rcases access with ⟨_ | _, _ | _⟩ <;> rfl

theorem removeKey_memory (access : PreferencesAccess) (key : String) (store : Preferences) :
    (store.removeKey access key).2.memory =
      if access.handle && access.writes then store.memory.erase key else store.memory := by
  unfold removeKey
  rcases access with ⟨_ | _, _ | _⟩ <;> rfl

end Preferences

end Screenlock
