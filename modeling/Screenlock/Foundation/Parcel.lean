import Mathlib.Logic.Basic

/-! # Parcels

A parcel is a queue of typed fields. A read takes the first field where it is of
the kind asked for; otherwise it fails and the parcel stays as it is. Reads come
in two forms: one reports the failure, the other gives a default in its place.
-/

namespace Foundation

universe u v

inductive ParcelField (ρ : Type u) where
  | interfaceToken (descriptor : String)
  | int32 (value : Int)
  | bool (value : Bool)
  | string (value : String)
  | remoteObject (object : ρ)
  deriving DecidableEq, Repr

/-- A parcel of fields, over the remote objects it can hold. -/
abbrev Parcel (ρ : Type u) := List (ParcelField ρ)

namespace ParcelField

variable {ρ : Type u}

def interfaceToken? : ParcelField ρ → Option String
  | interfaceToken descriptor => some descriptor
  | _ => none

def int32? : ParcelField ρ → Option Int
  | int32 value => some value
  | _ => none

def bool? : ParcelField ρ → Option Bool
  | bool value => some value
  | _ => none

def string? : ParcelField ρ → Option String
  | string value => some value
  | _ => none

def remoteObject? : ParcelField ρ → Option ρ
  | remoteObject object => some object
  | _ => none

end ParcelField

namespace Parcel

variable {ρ : Type u} {α : Type v}

/-- Take the first field, where `select` finds a value in it. -/
def read (select : ParcelField ρ → Option α) : Parcel ρ → Option α × Parcel ρ
  | [] => (none, [])
  | field :: rest =>
      match select field with
      | some value => (some value, rest)
      | none => (none, field :: rest)

/-- The form of a read that cannot fail. -/
def readOr (select : ParcelField ρ → Option α) (default : α) (parcel : Parcel ρ) :
    α × Parcel ρ :=
  ((parcel.read select).1.getD default, (parcel.read select).2)

def readInterfaceToken : Parcel ρ → String × Parcel ρ := readOr ParcelField.interfaceToken? ""

def readInt32? : Parcel ρ → Option Int × Parcel ρ := read ParcelField.int32?

def readInt32 : Parcel ρ → Int × Parcel ρ := readOr ParcelField.int32? 0

def readBool : Parcel ρ → Bool × Parcel ρ := readOr ParcelField.bool? false

def readString? : Parcel ρ → Option String × Parcel ρ := read ParcelField.string?

def readString : Parcel ρ → String × Parcel ρ := readOr ParcelField.string? ""

/-- A remote object that cannot be read is null. -/
def readRemoteObject : Parcel ρ → Option ρ × Parcel ρ := read ParcelField.remoteObject?

section Fields

/-! A field is read back as what it was written. -/

variable (rest : Parcel ρ)

@[simp] theorem readInterfaceToken_cons (descriptor : String) :
    readInterfaceToken (.interfaceToken descriptor :: rest) = (descriptor, rest) := rfl

@[simp] theorem readInt32?_nil : readInt32? ([] : Parcel ρ) = (none, []) := rfl

@[simp] theorem readInt32?_cons (value : Int) :
    readInt32? (.int32 value :: rest) = (some value, rest) := rfl

@[simp] theorem readInt32_cons (value : Int) :
    readInt32 (.int32 value :: rest) = (value, rest) := rfl

@[simp] theorem readBool_cons (value : Bool) :
    readBool (.bool value :: rest) = (value, rest) := rfl

@[simp] theorem readString_cons (value : String) :
    readString (.string value :: rest) = (value, rest) := rfl

@[simp] theorem readRemoteObject_cons (object : ρ) :
    readRemoteObject (.remoteObject object :: rest) = (some object, rest) := rfl

end Fields

end Parcel

end Foundation
