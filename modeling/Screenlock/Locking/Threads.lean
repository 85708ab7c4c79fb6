import Screenlock.Foundation.LockPool
import Screenlock.Locking.Code

/-! # The threads of the service and of its callers

Any number of threads of the service and of any number of client processes run side
by side. While there is an ability, they never lock each other out, and no two of them
meet at a table. A request that has to create the ability waits for itself.
-/

namespace Screenlock.Locking

open Foundation LockCode

/-- What begins a thread in the service. Which objects a request passes makes no difference
to the locks. -/
inductive ServiceEntry where
  | onRemoteRequest {kind : ReplyKind} (request : ManagerCall Unit kind)
  | onStart
  | publish
  | onStop
  | onAddSystemAbility
  | onRemoveSystemAbility
  | registerDisplayPowerEventListener
  | accountActive
  | accountRemove
  | accountUnlocked
  | onNotifyCredChangeEvent
  | onNotifyAuthSuccessEvent
  | onCredentialInfo
  | strongAuthTimerCallback
  | userIamReadyCallback
  | onDisplayPowerEvent
  | onSystemReady
  | unlockTask
  | lockTask
  | onRemoteDied
  | dump
  | onReceiveEvent
  | unSubscribeEvent

/-- What begins a thread in a process that uses the client library. -/
inductive ClientEntry where
  | manager {kind : ReplyKind} (request : ManagerCall ListenerPointer kind)
  | getManager
  | onRemoteSaDied
  | removeDeathRecipient
  | getEventHandler

inductive Entry where
  | service (entry : ServiceEntry)
  | client (process : Nat) (entry : ClientEntry)

variable (created : Bool)

def ServiceEntry.code : ServiceEntry → Code
  | onRemoteRequest request => Locking.onRemoteRequest created request
  | onStart => Locking.onStart created
  | publish => Locking.publish created
  | onStop => Locking.onStop
  | onAddSystemAbility => Locking.onAddSystemAbility
  | onRemoveSystemAbility => Locking.onRemoveSystemAbility
  | registerDisplayPowerEventListener => Locking.registerDisplayPowerEventListener
  | accountActive => Locking.accountActive created
  | accountRemove => Locking.accountRemove created
  | accountUnlocked => Locking.accountUnlocked created
  | onNotifyCredChangeEvent => Locking.onNotifyCredChangeEvent created
  | onNotifyAuthSuccessEvent => Locking.onNotifyAuthSuccessEvent created
  | onCredentialInfo => Locking.onCredentialInfo created
  | strongAuthTimerCallback => Locking.strongAuthTimerCallback created
  | userIamReadyCallback => Locking.userIamReadyCallback created
  | onDisplayPowerEvent => Locking.onDisplayPowerEvent
  | onSystemReady => Locking.onSystemReady
  | unlockTask => Locking.unlockTask
  | lockTask => Locking.lockTask
  | onRemoteDied => Locking.onRemoteDied
  | dump => Locking.dump
  | onReceiveEvent => Locking.onReceiveEvent
  | unSubscribeEvent => Locking.unSubscribeEvent

def ClientEntry.code (process : Nat) : ClientEntry → Code
  | manager request => Locking.manager process created request
  | getManager => Locking.getManager process
  | onRemoteSaDied => Locking.onRemoteSaDied process
  | removeDeathRecipient => Locking.removeDeathRecipientOfSa process
  | getEventHandler => Locking.getEventHandler process

def Entry.code : Entry → Code
  | service entry => entry.code created
  | client process entry => entry.code created process

/-- The steps of some execution of some entry. -/
def Execution (path : List (LockStep Mutex Table)) : Prop :=
  ∃ entry : Entry, (entry.code created).Path path

/-- The threads of all processes, begun and scheduled in any way. -/
def threads : Machine (List (LockThread Mutex Table)) (PoolEvent Mutex Table) :=
  LockPool.machine order (Execution created)

section Order

/-- The code keeps to the order and leaves its thread with the locks it came with. -/
abbrev Keeps (held : List (Mutex × LockMode)) (code : Code) : Prop :=
  code.check order.after held = some held

theorem keeps_onRemoteRequest {Listener : Type} {kind : ReplyKind}
    (request : ManagerCall Listener kind) : Keeps [] (onRemoteRequest false request) := by
  cases request with
  | setScreenLockDisabled disable userId => cases disable <;> rfl
  | _ => rfl

theorem ServiceEntry.keeps_code (entry : ServiceEntry) : Keeps [] (entry.code false) := by
  cases entry with
  | onRemoteRequest request => exact keeps_onRemoteRequest request
  | _ => rfl

variable {process : Nat}

theorem keeps_optional {held : List (Mutex × LockMode)} {codes : List Code}
    (hcodes : Keeps held (block codes)) : Keeps held (optional codes) :=
  check_either_eq_some.mpr ⟨rfl, hcodes⟩

theorem keeps_clientLocked {mutex : ClientMutex} {codes : List Code}
    (hcodes : Keeps [(.client process mutex, .exclusive)] (block codes)) :
    Keeps [] (clientLocked process mutex codes) :=
  order.check_scope (fun _ hmem => absurd hmem List.not_mem_nil) hcodes

theorem keeps_useClient (table : ClientTable) :
    Keeps [(.client process table.guard, .exclusive)] (useClient process table) :=
  order.check_read List.mem_cons_self

theorem keeps_getProxy : Keeps [] (getProxy process) := by
  have hproxy := @keeps_useClient process .screenlockManagerProxy
  have hredo := keeps_optional (check_block_one hproxy)
  exact keeps_clientLocked (check_block_cons hproxy (check_block_one hredo))

/-- The service takes none of the locks of its callers. -/
theorem rank_pos_of_mem_locks {Listener : Type} {kind : ReplyKind}
    (request : ManagerCall Listener kind) {lock : Mutex}
    (hmem : lock ∈ (onRemoteRequest false request).locks) : 0 < order.rank lock := by
  have hall : ((onRemoteRequest false request).locks.all fun lock => 0 < order.rank lock) = true := by
    cases request with
    | setScreenLockDisabled disable userId => cases disable <;> rfl
    | _ => rfl
  exact of_decide_eq_true (List.all_eq_true.mp hall lock hmem)

/-- A caller may hold a lock of its own while it waits for the service. -/
theorem keeps_transact {Listener : Type} {kind : ReplyKind} (request : ManagerCall Listener kind)
    (mutex : ClientMutex) :
    Keeps [(.client process mutex, .exclusive)] (onRemoteRequest false request) := by
  refine order.check_append (keeps_onRemoteRequest request) fun lock hmem other hother => ?_
  rw [List.mem_singleton.mp hother]
  exact rank_pos_of_mem_locks request hmem

theorem keeps_manager {Listener : Type} {kind : ReplyKind} (request : ManagerCall Listener kind) :
    Keeps [] (manager process false request) := by
  have hproxy := @keeps_getProxy process
  have hagain := keeps_optional (check_block_one hproxy)
  have hmap := @keeps_useClient process .innerListenerWrapperMap
  have hcall := @keeps_transact process _ _ request .listenerWrapperMapMutex
  have hserved := keeps_onRemoteRequest request
  cases request with
  | registerInnerListener userId listenType listener =>
      have hfresh := keeps_optional (check_block_cons hmap (check_block_one hcall))
      have hlocked := keeps_clientLocked (check_block_cons hmap (check_block_one hfresh))
      exact check_block_cons hproxy (check_block_cons hagain
        (check_block_one (keeps_optional (check_block_one hlocked))))
  | unRegisterInnerListener userId listenType listener =>
      have hfound := keeps_optional (check_block_cons hcall (check_block_one hmap))
      have hlocked := keeps_clientLocked (check_block_cons hmap (check_block_one hfound))
      exact check_block_cons hproxy (check_block_cons hagain
        (check_block_one (keeps_optional (check_block_one hlocked))))
  | onSystemEvent listener =>
      have hkept : Keeps [] (clientLocked process .listenerLock []) := keeps_clientLocked rfl
      have htransact := check_block_cons hkept (check_block_one hserved)
      exact check_block_cons hproxy (check_block_one (keeps_optional htransact))
  | _ =>
      exact check_block_cons hproxy (check_block_one (keeps_optional (check_block_one hserved)))

theorem ClientEntry.keeps_code (entry : ClientEntry) : Keeps [] (entry.code false process) := by
  cases entry with
  | manager request => exact keeps_manager request
  | getManager => exact keeps_optional (check_block_one (keeps_clientLocked rfl))
  | onRemoteSaDied | removeDeathRecipient =>
      exact keeps_clientLocked (check_block_one (keeps_useClient .screenlockManagerProxy))
  | getEventHandler => exact keeps_clientLocked rfl

theorem follow_of_execution (path : List (LockStep Mutex Table))
    (hexecution : Execution false path) : follow order.after [] path = some [] := by
  obtain ⟨entry, hpath⟩ := hexecution
  refine follow_of_check hpath ?_
  cases entry with
  | service entry => exact entry.keeps_code
  | client process entry => exact entry.keeps_code

end Order

section Results

/-- The steps of a completion of lock requests. -/
def lockTaskPath : List (LockStep Mutex Table) :=
  [.acquire (.service .lockListenerMutex) .exclusive, .access (.service .lockVecListeners),
    .release (.service .lockListenerMutex) .exclusive]

theorem execution_lockTaskPath : Execution false lockTaskPath :=
  ⟨.service .lockTask, .seq (.step _) (.seq (.seq (.step _) .skip) (.step _))⟩

/-- Two completions that run one after the other. -/
def lockTaskEvents : List (PoolEvent Mutex Table) :=
  [.start lockTaskPath, .start lockTaskPath] ++ [0, 0, 0, 1, 1, 1].map .run

theorem admits_lockTaskEvents : (threads false).Admits [] lockTaskEvents :=
  ⟨execution_lockTaskPath, execution_lockTaskPath, ⟨_, rfl, by decide⟩, ⟨_, rfl, by decide⟩,
    ⟨_, rfl, by decide⟩, ⟨_, rfl, by decide⟩, ⟨_, rfl, by decide⟩, ⟨_, rfl, by decide⟩, trivial⟩

/-- Two threads that use one table are kept apart by the mutex of the table. -/
theorem uses_ordered {events : List (PoolEvent Mutex Table)}
    (hadmits : (threads false).Admits [] events) {table : Table}
    {first second firstThread secondThread : Nat} (hlt : first < second)
    (hne : firstThread ≠ secondThread)
    (hfirst : LockPool.Performs order (Execution false) [] events first firstThread
      (.access table))
    (hsecond : LockPool.Performs order (Execution false) [] events second secondThread
      (.access table)) :
    ∃ released acquired, first < released ∧ released < acquired ∧ acquired < second ∧
      LockPool.Performs order (Execution false) [] events released firstThread
        (.release (order.guard table) .exclusive) ∧
      LockPool.Performs order (Execution false) [] events acquired secondThread
        (.acquire (order.guard table) .exclusive) :=
  LockPool.accesses_ordered follow_of_execution hadmits LockPool.orderly_nil hlt hne hfirst hsecond

theorem lock_tasks_ordered :
    ∃ released acquired, 3 < released ∧ released < acquired ∧ acquired < 6 ∧
      LockPool.Performs order (Execution false) [] lockTaskEvents released 0
        (.release (.service .lockListenerMutex) .exclusive) ∧
      LockPool.Performs order (Execution false) [] lockTaskEvents acquired 1
        (.acquire (.service .lockListenerMutex) .exclusive) :=
  @uses_ordered lockTaskEvents admits_lockTaskEvents (.service .lockVecListeners) 3 6 0 1
    (by decide) (by decide) ⟨rfl, rfl⟩ ⟨rfl, rfl⟩

end Results

section Creation

/-- The taking of `rw_mutex` in the constructor of the stub. -/
def creation : LockStep Mutex Table := .acquire (.service .rwMutex) .exclusive

/-- The locks of a thread, as long as it creates the ability only in `GetInstance` of a
request that is being served. -/
def servedCreation (held : List (Mutex × LockMode)) (act : LockStep Mutex Table) :
    Option (List (Mutex × LockMode)) :=
  if act = creation ∧ ¬((.service .rwMutex, .shared) ∈ held ∧
      (.service .instanceLock, .exclusive) ∈ held) then none
  else some (act.taken held)

theorem follow_servedCreation {held held' : List (Mutex × LockMode)}
    {path : List (LockStep Mutex Table)} (hfollow : follow servedCreation held path = some held') :
    held' = LockStep.takenAlong held path := by
  induction path generalizing held with
  | nil => exact (Option.some.inj hfollow).symm
  | cons act rest ih =>
      obtain ⟨next, hact, hrest⟩ := Option.bind_eq_some_iff.mp hfollow
      unfold servedCreation at hact
      split at hact
      · cases hact
      · obtain rfl := Option.some.inj hact
        exact ih hrest

theorem check_servedCreation {Listener : Type} {kind : ReplyKind}
    (request : ManagerCall Listener kind) :
    (onRemoteRequest true request).check servedCreation [] = some [] := by
  cases request with
  | setScreenLockDisabled disable userId => cases disable <;> rfl
  | _ => rfl

/-- A request comes to the creation with the instance lock, and with the lock that the
creation wants, held for reading. -/
theorem exists_before_creation {Listener : Type} {kind : ReplyKind}
    {request : ManagerCall Listener kind} {path : List (LockStep Mutex Table)}
    (hpath : (onRemoteRequest true request).Path path) (hcreates : creation ∈ path) :
    ∃ before after, path = before ++ creation :: after ∧ creation ∉ before ∧
      (.service .rwMutex, .shared) ∈ LockStep.takenAlong [] before ∧
      (.service .instanceLock, .exclusive) ∈ LockStep.takenAlong [] before := by
  obtain ⟨before, after, rfl, hfirst⟩ := List.eq_append_cons_of_mem hcreates
  have hfollow := follow_of_check hpath (check_servedCreation request)
  rw [follow_append] at hfollow
  obtain ⟨held, hbefore, hrest⟩ := Option.bind_eq_some_iff.mp hfollow
  obtain ⟨next, hcreation, -⟩ := Option.bind_eq_some_iff.mp hrest
  obtain rfl := follow_servedCreation hbefore
  refine ⟨before, after, rfl, hfirst, ?_⟩
  by_contra hmissing
  rw [servedCreation, if_pos ⟨rfl, hmissing⟩] at hcreation
  cases hcreation

/-- A request that has to create the ability is never answered, and from the moment it comes
to that no other thread gets hold of the instance. -/
theorem creating_request_waits_forever {Listener : Type} {kind : ReplyKind}
    {request : ManagerCall Listener kind} {path : List (LockStep Mutex Table)}
    (hpath : (onRemoteRequest true request).Path path) (hcreates : creation ∈ path)
    {events later : List (PoolEvent Mutex Table)}
    (hadmits : (threads true).Admits [] (events ++ .start path :: later)) :
    let thread := ((threads true).run [] events).length
    let pool := (threads true).run [] (events ++ .start path :: later)
    (∃ entry, pool[thread]? = some entry ∧ creation ∈ entry.rest) ∧
      (LockPool.next pool thread = some creation →
        ∀ further, (threads true).Admits pool further → ∀ other, other ≠ thread → ∀ mode,
          ¬ LockPool.Holds ((threads true).run pool further) other (.service .instanceLock)
            mode) := by
  intro thread pool
  obtain ⟨before, after, rfl, hfirst, hreads, hinstance⟩ := exists_before_creation hpath hcreates
  obtain ⟨hevents, -, hlater⟩ := ((threads true).steps_append _ _ _ _).mp hadmits
  have hrun : pool = (threads true).run ((threads true).run [] events ++
      [⟨[], before ++ creation :: after⟩]) later := Machine.run_append _ _ _ _
  have hexclusive : LockPool.Exclusive pool := LockPool.exclusive_run hadmits LockPool.exclusive_nil
  have hstart : LockPool.Approaches ((threads true).run [] events ++
      [⟨[], before ++ creation :: after⟩]) thread [] before (creation :: after) :=
    ⟨[], before, rfl, by simp [thread, LockStep.takenAlong]⟩
  obtain ⟨past, coming, rfl, hentry⟩ := hrun ▸ LockPool.approaches_run hreads hlater hstart
  refine ⟨⟨_, hentry, List.mem_append_right _ List.mem_cons_self⟩, ?_⟩
  intro hnext further hfurther other hne mode
  cases coming with
  | nil =>
      rw [List.append_nil] at hreads hinstance
      exact LockPool.blocks_others hexclusive hreads hentry hfurther hinstance hne mode
  | cons first coming =>
      obtain rfl := Option.some.inj ((LockPool.next_of_entry hentry).symm.trans hnext)
      exact absurd (List.mem_append_right _ List.mem_cons_self) hfirst

/-- A request for strong authentication that finds no instance to tell, and its way up to the
creation. -/
theorem exists_creating_path :
    ∃ path, (onRemoteRequest true (.requestStrongAuth 2 100 : ManagerCall Unit .status)).Path path ∧
      creation ∈ path ∧
      (Execution true path →
        (threads true).Admits [] ([] ++ .start path :: List.replicate 5 (.run 0))) ∧
      LockPool.next ((threads true).run [] ([] ++ .start path :: List.replicate 5 (.run 0))) 0 =
        some creation := by
  have hset : getListenerSet.Path _ := .seq (.step _) (.seq (.seq (.step _) .skip) (.step _))
  have hchanged : onStateChanged.Path _ :=
    .seq (.step _) (.seq (.seq hset (.seq hset .skip)) (.step _))
  have hstub : screenLockManagerStub.Path _ := .seq (.step _) (.seq .skip (.step _))
  have hinstance : (getInstance true).Path _ :=
    .right _ (.seq (.seq (.step _) (.seq (.seq (.right _ (.seq hstub .skip)) .skip) (.step _)))
      .skip)
  have hnotify : (notifyStrongAuthChange true).Path _ :=
    .right _ (.seq hinstance (.seq (.left _ .skip) (.seq (.left _ .skip) (.seq hchanged .skip))))
  have hstat : (setStrongAuthStat true).Path _ :=
    .seq (.step _) (.seq (.step _) (.seq (.left _ (.seq (.step _) (.seq hnotify
      (.seq (.step _) .skip)))) .skip))
  have hcall : (call true (.requestStrongAuth 2 100 : ManagerCall Unit .status)).Path _ :=
    .right _ (.seq (.left _ .skip) (.seq hstat .skip))
  refine ⟨_, .right _ (.seq (.seq (.step _) (.seq (.seq (.right _ (.seq hcall .skip)) .skip)
    (.step _))) .skip), by decide, fun hstarts => ?_, rfl⟩
  exact ⟨hstarts, ⟨_, rfl, by decide⟩, ⟨_, rfl, by decide⟩, ⟨_, rfl, by decide⟩,
    ⟨_, rfl, by decide⟩, ⟨_, rfl, by decide⟩, trivial⟩

theorem strong_auth_request_waits :
    ∃ path : List (LockStep Mutex Table),
      let pool := (threads true).run [] ([] ++ .start path :: List.replicate 5 (.run 0))
      LockPool.next pool 0 = some creation ∧
        ∀ further, (threads true).Admits pool further → ∀ other, other ≠ 0 → ∀ mode,
          ¬ LockPool.Holds ((threads true).run pool further) other (.service .instanceLock)
            mode := by
  obtain ⟨path, hpath, hcreates, hadmits, hnext⟩ := exists_creating_path
  have hstarts : Execution true path := ⟨.service (.onRemoteRequest _), hpath⟩
  exact ⟨path, hnext,
    (creating_request_waits_forever hpath hcreates (hadmits hstarts)).2 hnext⟩

end Creation

end Screenlock.Locking
