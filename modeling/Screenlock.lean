import Screenlock.Foundation.Machine
import Screenlock.Foundation.BatchQueue
import Screenlock.Common
import Screenlock.Preferences
import Screenlock.Platform
import Screenlock.StrongAuth.Manager
import Screenlock.Foundation.KeyedList
import Screenlock.InnerListener.Manager
import Screenlock.InnerListener.Registry
import Screenlock.StrongAuth.Flags
import Screenlock.InnerListener.Coherence
import Screenlock.Service.Ability
import Screenlock.Service.Calls
import Screenlock.Service.Events
import Screenlock.StrongAuth.Requirement
import Screenlock.Service.StrongAuth
import Screenlock.Service.Steps
import Screenlock.Service.Notices
import Screenlock.Service.DeviceLock
import Screenlock.Service.DisabledFlag
import Screenlock.Service.Waiting
import Screenlock.Service.Schedule
import Screenlock.Service.Completion
import Screenlock.Foundation.Interleaving
import Screenlock.StrongAuth.Sections
import Screenlock.StrongAuth.Account
import Screenlock.StrongAuth.Threads
import Screenlock.StrongAuth.Race
import Screenlock.StrongAuth.Outcome
import Screenlock.StrongAuth.RaceHistory
import Screenlock.StrongAuth.Timeouts
import Screenlock.StrongAuth.Readings
import Screenlock.StrongAuth.Firing
import Screenlock.StrongAuth.Serializability
import Screenlock.Foundation.History
import Screenlock.InnerListener.Death
import Screenlock.InnerListener.Delivery
import Screenlock.StrongAuth.Runs
import Screenlock.StrongAuth.TimerLedger
import Screenlock.StrongAuth.TimerRegistry
import Screenlock.StrongAuth.Notices
import Screenlock.Service.Boot
import Screenlock.StrongAuth.Announcements
import Screenlock.Watch.AppLock
import Screenlock.Watch.Soundness
import Screenlock.Client.Ipc
import Screenlock.Client.Manager
import Screenlock.Client.Agreement
import Screenlock.Service.InnerListeners
import Screenlock.Client.Restart
import Screenlock.Client.AsyncCall
import Screenlock.Client.Answers
import Screenlock.Service.Mediation
import Screenlock.Service.StoreSteps
import Screenlock.Service.AccountRecords
import Screenlock.Service.LockHistory
import Screenlock.Service.Removal
import Screenlock.Service.Lifetimes
import Screenlock.Service.PolicyRemoval
import Screenlock.Service.PolicySurvival
import Screenlock.StrongAuth.Deletion
import Screenlock.Client.SystemEvents
import Screenlock.Watch.WearDetection
import Screenlock.Foundation.Parcel
import Screenlock.Ipc.Interface
import Screenlock.Ipc.Proxy
import Screenlock.Ipc.Stub
import Screenlock.Ipc.RoundTrip
import Screenlock.Ipc.Truncation
import Screenlock.Service.ListenerAccess
import Screenlock.Service.ActiveAccount
import Screenlock.Service.Secured
import Screenlock.Service.SettingsStored
import Screenlock.Ipc.EventChannel
import Screenlock.Service.SystemReady
import Screenlock.StrongAuth.TimerView
import Screenlock.StrongAuth.PeriodLadder
import Screenlock.StrongAuth.StageExpiry
import Screenlock.Client.UnlockPolicy
import Screenlock.Service.Lifecycle
import Screenlock.Watch.Observers
import Screenlock.Watch.UnlockWatch
import Screenlock.Service.SettingsIsolation
import Screenlock.InnerListener.Repetition
import Screenlock.Foundation.Locking
import Screenlock.Foundation.LockPool
import Screenlock.Locking.Code
import Screenlock.Locking.Threads
import Screenlock.Locking.Tables
import Screenlock.Foundation.Noninterference
import Screenlock.StrongAuth.Isolation
import Screenlock.Service.Noninterference
import Screenlock.Foundation.Relay
import Screenlock.InnerListener.Channel
import Screenlock.Service.LockMirror
import Screenlock.Client.CallBacks
import Screenlock.Client.Settlement
import Screenlock.Client.Promises
import Screenlock.Service.PowerEvents
import Screenlock.Service.LockScreenEvents
import Screenlock.Client.LockScreenApplication
import Screenlock.Client.Handshake
