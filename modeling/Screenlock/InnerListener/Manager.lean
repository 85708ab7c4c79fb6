import Screenlock.Platform
import Screenlock.Foundation.Machine

/-! # The inner-listener manager

`InnerListenerManager` keeps two tables: the listeners of each listen type and
account, and one death recipient for a listener. Both find a listener by its
remote object. The recipients attached to remote objects on the other side of
the binder are kept beside the tables.
-/

namespace Screenlock

abbrev RemoteObject := Nat

abbrev DeathRecipient := Nat

/-- An `InnerListenerIf` object: its address, and the remote object it stands for. -/
structure InnerListener where
  address : Nat
  asObject : Option RemoteObject
  deriving DecidableEq, Repr

/-- `FinderSet` and `FinderMap` compare remote objects, never listeners. -/
def finder (remoteObject : Option RemoteObject) (listener : InnerListener) : Bool :=
  listener.asObject = remoteObject

structure DeathRecord where
  listener : InnerListener
  listenType : ListenType
  recipient : DeathRecipient
  deriving DecidableEq, Repr

structure InnerListenerManager where
  deathRecipientMap : List DeathRecord
  innerListenMap : Std.TreeMap ListenType (Std.TreeMap UserId (List InnerListener))
  attached : List (RemoteObject × DeathRecipient)
  nextRecipient : DeathRecipient

namespace InnerListenerManager

def empty : InnerListenerManager := ⟨[], ∅, [], 0⟩

def getListenerSet (userId : UserId) (listenType : ListenType)
    (manager : InnerListenerManager) : List InnerListener :=
  ((manager.innerListenMap[listenType]?).bind fun byUser => byUser[userId]?).getD []

/-- `AddDeathRecipient`; `attaches` is the answer of the remote object. The
table is keyed by listener, and the search by remote object has just excluded
an entry under the same key. -/
def addDeathRecipient (attaches : Bool) (listenType : ListenType) (listener : InnerListener)
    (manager : InnerListenerManager) : ScreenLockError × InnerListenerManager :=
  match listener.asObject with
  | none => (.nullptr, manager)
  | some obj =>
      if manager.deathRecipientMap.any (fun entry => finder (some obj) entry.listener) then
        (.ok, manager)
      else if attaches then
        (.ok, { manager with
          deathRecipientMap := manager.deathRecipientMap ++
            [⟨listener, listenType, manager.nextRecipient⟩]
          attached := manager.attached ++ [(obj, manager.nextRecipient)]
          nextRecipient := manager.nextRecipient + 1 })
      else (.nullptr, manager)

def removeDeathRecipient (listener : InnerListener) (manager : InnerListenerManager) :
    ScreenLockError × InnerListenerManager :=
  match listener.asObject with
  | none => (.nullptr, manager)
  | some obj =>
      match manager.deathRecipientMap.find? (fun entry => finder (some obj) entry.listener) with
      | none => (.ok, manager)
      | some found =>
          (.ok, { manager with
            deathRecipientMap := manager.deathRecipientMap.eraseP
              (fun entry => finder (some obj) entry.listener)
            attached := manager.attached.filter (· ≠ (obj, found.recipient)) })

def addInnerListener (userId : UserId) (listenType : ListenType) (listener : InnerListener)
    (manager : InnerListenerManager) : InnerListenerManager :=
  let byUser := (manager.innerListenMap[listenType]?).getD ∅
  let listenSet := (byUser[userId]?).getD []
  let registered :=
    if listenSet.any (finder listener.asObject) then listenSet else listenSet ++ [listener]
  { manager with
    innerListenMap := manager.innerListenMap.insert listenType (byUser.insert userId registered) }

/-- The loop of `RemoveInnerListener` over the accounts, in ascending order. It
returns at the first account whose set holds the remote object. -/
def eraseFirst (remoteObject : Option RemoteObject) :
    List UserId → Std.TreeMap UserId (List InnerListener) →
      Std.TreeMap UserId (List InnerListener)
  | [], byUser => byUser
  | userId :: rest, byUser =>
      let listenSet := (byUser[userId]?).getD []
      if listenSet.any (finder remoteObject) then
        byUser.insert userId (listenSet.eraseP (finder remoteObject))
      else eraseFirst remoteObject rest byUser

def removeInnerListener (listenType : ListenType) (listener : InnerListener)
    (manager : InnerListenerManager) : InnerListenerManager :=
  match manager.innerListenMap[listenType]? with
  | none => manager
  | some byUser =>
      { manager with
        innerListenMap := manager.innerListenMap.insert listenType
          (eraseFirst listener.asObject byUser.keys byUser) }

/-- `USER_CURRENT` stands for the account of the caller. -/
def listenedAccount (callingUser userId : UserId) : UserId :=
  if userId = SpecialUserId.userCurrent then callingUser else userId

/-- `RegisterInnerListener`; `callingUser` is what `GetUserIdFromCallingUid` answers. -/
def registerInnerListener (callingUser : UserId) (attaches : Bool) (userId : UserId)
    (listenType : ListenType) (listener : Option InnerListener)
    (manager : InnerListenerManager) : ScreenLockError × InnerListenerManager :=
  match listener with
  | none => (.nullptr, manager)
  | some listener =>
      let (result, watched) := manager.addDeathRecipient attaches listenType listener
      if result ≠ .ok then (result, watched)
      else
        (.ok, watched.addInnerListener (listenedAccount callingUser userId) listenType listener)

def unRegisterInnerListener (listenType : ListenType) (listener : Option InnerListener)
    (manager : InnerListenerManager) : ScreenLockError × InnerListenerManager :=
  match listener with
  | none => (.nullptr, manager)
  | some listener =>
      let (result, unwatched) := manager.removeDeathRecipient listener
      if result ≠ .ok then (result, unwatched)
      else (.ok, unwatched.removeInnerListener listenType listener)

/-- The listeners `OnStateChanged` notifies, in order: those of the account,
then those of all accounts. -/
def onStateChanged (userId : UserId) (listenType : ListenType)
    (manager : InnerListenerManager) : List InnerListener :=
  manager.getListenerSet userId listenType ++
    manager.getListenerSet SpecialUserId.userAll listenType

/-- `InnerListenerDeathRecipient::OnRemoteDied` walks a copy of the table. -/
def onRemoteDied (remote : Option RemoteObject) (manager : InnerListenerManager) :
    InnerListenerManager :=
  match remote with
  | none => manager
  | some obj =>
      manager.deathRecipientMap.foldl
        (fun current entry =>
          if entry.listener.asObject = some obj then
            (current.unRegisterInnerListener entry.listenType (some entry.listener)).2
          else current)
        manager

end InnerListenerManager

/-- The calls that change the tables, with the answers they meet. -/
inductive InnerListenerEvent where
  | register (callingUser : UserId) (attaches : Bool) (userId : UserId) (listenType : ListenType)
      (listener : Option InnerListener)
  | unRegister (listenType : ListenType) (listener : Option InnerListener)
  | remoteDied (remote : Option RemoteObject)
  deriving DecidableEq, Repr

namespace InnerListenerManager

def step (manager : InnerListenerManager) : InnerListenerEvent → InnerListenerManager
  | .register callingUser attaches userId listenType listener =>
      (manager.registerInnerListener callingUser attaches userId listenType listener).2
  | .unRegister listenType listener => (manager.unRegisterInnerListener listenType listener).2
  | .remoteDied remote => manager.onRemoteDied remote

/-- Every call can arrive at any time. -/
def machine : Foundation.Machine InnerListenerManager InnerListenerEvent where
  enabled _ _ := True
  step := step

end InnerListenerManager

end Screenlock
