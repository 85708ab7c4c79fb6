import Screenlock.Service.Steps

/-! # The display and the lock-screen application

Besides what its callers ask for, the service passes on to the lock-screen application what
the display does, and keeps in `StateValue` what it has passed on last. The tasks of its
queue run one after the other.
-/

namespace Screenlock

open Foundation

/-- `DisplayPowerEvent` of the display manager, of which the service knows five. -/
inductive DisplayPowerEvent where
  | wakeUp
  | sleep
  | displayOn
  | displayOff
  | desktopReady
  | other (value : Int)
  deriving DecidableEq, Repr

/-- `EventStatus`: `BEGIN` and `END`. -/
inductive EventStatus where
  | begins
  | ends
  deriving DecidableEq, Repr

namespace ScreenState

abbrev beginOff : Int := 0
abbrev endOff : Int := 1
abbrev beginOn : Int := 2
abbrev endOn : Int := 3

end ScreenState

namespace InteractiveState

abbrev endSleep : Int := 0
abbrev beginWakeup : Int := 1
abbrev endWakeup : Int := 2
abbrev beginSleep : Int := 3

end InteractiveState

namespace SystemEvent

def beginWakeup : String := "beginWakeUp"
def endWakeup : String := "endWakeUp"
def beginScreenOn : String := "beginScreenOn"
def endScreenOn : String := "endScreenOn"
def beginSleep : String := "beginSleep"
def endSleep : String := "endSleep"
def beginScreenOff : String := "beginScreenOff"
def endScreenOff : String := "endScreenOff"
def exitAnimation : String := "beginExitAnimation"

end SystemEvent

/-- `IAM_EVENT_KEY`. -/
def iamEventKey : String := "bootevent.useriam.fwkready"

/-- The service with the parts of `StateValue` that only the display sets. -/
structure PoweredService where
  ability : ScreenLockSystemAbility
  screenState : Int
  interactiveState : Int

namespace PoweredService

/-- A freshly started service. -/
def started (disk : Std.TreeMap String PreferencesValue) : PoweredService :=
  ⟨ScreenLockSystemAbility.started disk, 0, 0⟩

variable (service : PoweredService)

/-- `SystemEventCallBack`, entered from outside. -/
def systemEventCallBack (event : SystemEvent) : PoweredService :=
  { service with
    ability := service.ability.readied.send (service.ability.systemEventCallBack event) }

section Display

variable (status : EventStatus)

def onScreenOff : PoweredService :=
  match status with
  | .begins => { service with screenState := ScreenState.beginOff }.systemEventCallBack
      { eventType := SystemEvent.beginScreenOff }
  | .ends => { service with screenState := ScreenState.endOff }.systemEventCallBack
      { eventType := SystemEvent.endScreenOff }

def onScreenOn : PoweredService :=
  match status with
  | .begins => { service with screenState := ScreenState.beginOn }.systemEventCallBack
      { eventType := SystemEvent.beginScreenOn }
  | .ends => { service with screenState := ScreenState.endOn }.systemEventCallBack
      { eventType := SystemEvent.endScreenOn }

def onWakeUp : PoweredService :=
  match status with
  | .begins =>
      { service with interactiveState := InteractiveState.beginWakeup }.systemEventCallBack
        { eventType := SystemEvent.beginWakeup }
  | .ends => { service with interactiveState := InteractiveState.endWakeup }.systemEventCallBack
      { eventType := SystemEvent.endWakeup }

def onSleep : PoweredService :=
  match status with
  | .begins => { service with interactiveState := InteractiveState.beginSleep }.systemEventCallBack
      { eventType := SystemEvent.beginSleep }
  | .ends => { service with interactiveState := InteractiveState.endSleep }.systemEventCallBack
      { eventType := SystemEvent.endSleep }

def onExitAnimation : PoweredService :=
  service.systemEventCallBack { eventType := SystemEvent.exitAnimation }

/-- `OnDisplayPowerEvent` of the listener the service has registered. -/
def onDisplayPowerEvent (event : DisplayPowerEvent) : PoweredService :=
  match event with
  | .wakeUp => service.onWakeUp status
  | .sleep => service.onSleep status
  | .displayOn => service.onScreenOn status
  | .displayOff => service.onScreenOff status
  | .desktopReady => service.onExitAnimation
  | .other _ => { service with ability := service.ability.readied }

end Display

/-- `UserIamReadyCallback`, which passes the value of the parameter on. -/
def userIamReadyCallback (key value : String) : PoweredService :=
  if key ≠ iamEventKey then { service with ability := service.ability.readied }
  else service.systemEventCallBack { eventType := SystemEvent.useriamReady, params := value }

/-- The task at the head of the queue runs to its end. `finds` tells whether `OnSystemReady`
has found the system ready, and a listener, before it gave up. -/
def runTask (finds : Bool) : PoweredService :=
  match service.ability.queue with
  | some (.onSystemReady :: rest) =>
      let finished := { service with ability := { service.ability with queue := some rest } }
      if finds then finished.systemEventCallBack { eventType := SystemEvent.systemReady }
      else { finished with ability := finished.ability.readied }
  | some (.notifyDisplayEvent _ :: rest) =>
      { service with ability := { service.ability.readied with queue := some rest } }
  | _ => { service with ability := service.ability.readied }

end PoweredService

/-- Whatever enters the service. -/
inductive PoweredEvent where
  | service (event : ServiceEvent)
  | displayPower (event : DisplayPowerEvent) (status : EventStatus)
  | userIamReady (key value : String)
  | runTask (finds : Bool)

namespace PoweredService

def step (service : PoweredService) : PoweredEvent → PoweredService
  | .service event => { service with ability := service.ability.step event }
  | .displayPower event status => service.onDisplayPowerEvent status event
  | .userIamReady key value => service.userIamReadyCallback key value
  | .runTask finds => service.runTask finds

/-- A task can tell a listener only if there is one. -/
def machine : Machine PoweredService PoweredEvent where
  enabled service event := match event with
    | .service event => ScreenLockSystemAbility.machine.enabled service.ability event
    | .displayPower _ _ | .userIamReady _ _ => True
    | .runTask finds =>
        service.ability.queue.getD [] ≠ [] ∧
          (finds = true → service.ability.systemEventListener.isSome = true)
  step := step

end PoweredService

end Screenlock
