import QvNetfilter.Locking

/-!
# The locks of the handler

The driver's thread delivers the events, the worker thread handles the completions, and the
caller's thread starts and stops both. They share the tables of `EventHandler` and of
`UDPProxy`. Of every function there is its use of the locks and of the tables; the entries of
`m_socketMap` belong to that table.
-/

namespace LockOrder

open Locking Mealy Code

inductive Thread where
  | driver
  | worker
  | caller
deriving DecidableEq

instance : Fintype Thread := ⟨{.driver, .worker, .caller}, fun thread => by cases thread <;> simp⟩

/-- `EventHandler::lock` is a `std::mutex`, `UDPProxy::m_cs` a critical section. -/
inductive Lock where
  | lock
  | mCs
deriving DecidableEq

inductive Table where
  | connInfoMap
  | udpCtxMap
  | socketMap
  | ovDataSet
deriving DecidableEq

abbrev Piece := Code Thread Lock Table

section UDPProxy

def newOvData : Piece := .locked .mCs (.access .ovDataSet)

/-- The record is searched for, and erased if it is found. -/
def deleteOvData : Piece :=
  .locked .mCs (seqs [.access .ovDataSet, optional (.access .ovDataSet)])

def startConnect : Piece := seqs [newOvData, optional deleteOvData]

/-- The record is a new one if the caller has passed none. -/
def startUdpReceive (fresh : Bool) : Piece :=
  seqs [if fresh then newOvData else .skip, optional deleteOvData]

def startTcpReceive (fresh : Bool) : Piece :=
  seqs [if fresh then newOvData else .skip, optional deleteOvData]

def startTcpSend : Piece := seqs [newOvData, optional deleteOvData]

def deleteProxyConnection : Piece :=
  .locked .mCs (seqs [.access .socketMap, optional (.access .socketMap)])

/-- The last section of `createProxyConnection` is that of `deleteProxyConnection`. -/
def createProxyConnection : Piece :=
  optional (seqs [.locked .mCs (.access .socketMap), optional startConnect,
    optional deleteProxyConnection])

/-- The datagram is queued, or it is sent: then the call may fail, and the first one starts the
receive. -/
def udpSend : Piece :=
  .locked .mCs (seqs [.access .socketMap, oneOf [
    .skip,
    .access .socketMap,
    seqs [.access .socketMap, newOvData, .access .socketMap, oneOf [
      optional deleteOvData,
      seqs [.access .socketMap, optional (seqs [.access .socketMap, startUdpReceive true])]]]]])

/-- `startTcpSend` is called with the socket of the entry, and the entry moves on. -/
def answer : Piece :=
  seqs [.access .socketMap, startTcpSend, optional (.access .socketMap)]

/-- The queue is flushed with the critical section entered, which `udpSend` enters again. -/
def flushPackets : Piece :=
  seqs [.access .socketMap, .loop (seqs [.access .socketMap, udpSend, .access .socketMap])]

def onTcpReceiveComplete : Piece :=
  .choose deleteOvData (seqs [
    .locked .mCs (seqs [.access .socketMap,
      optional (seqs [.access .socketMap, oneOf [.skip, answer, flushPackets]])]),
    startTcpReceive false])

def onTcpSendComplete : Piece := deleteOvData

def onUdpSendComplete : Piece := deleteOvData

def onConnectComplete : Piece :=
  .choose (seqs [deleteProxyConnection, deleteOvData])
    (.locked .mCs (seqs [.access .socketMap,
      optional (seqs [answer, .access .socketMap, startTcpReceive true]), deleteOvData]))

/-- `EventHandler::onUdpReceiveComplete` -/
def onDatagram : Piece :=
  .locked .lock (seqs [.access .udpCtxMap, optional (.access .udpCtxMap)])

def onUdpReceiveComplete : Piece :=
  .choose deleteOvData (seqs [optional onDatagram, startUdpReceive false])

def onComplete : Piece :=
  oneOf [onUdpSendComplete, onUdpReceiveComplete, onConnectComplete, onTcpSendComplete,
    onTcpReceiveComplete]

/-- `UDPProxy::free` waits for the worker, and clears both tables without the critical
section. -/
def udpProxyFree : Piece :=
  seqs [.join .worker, .access .ovDataSet, .loop (.access .ovDataSet), .access .socketMap,
    .loop (.access .socketMap)]

end UDPProxy

section EventHandler

def eventHandlerFree : Piece :=
  seqs [udpProxyFree,
    .locked .lock (seqs [.loop (.access .udpCtxMap), .access .udpCtxMap])]

/-- When the proxy cannot be started the handler frees it. -/
def eventHandlerInit : Piece := optional eventHandlerFree

def tcpConnectRequest : Piece := .access .connInfoMap

def tcpClosed : Piece := .access .connInfoMap

def tcpReceive : Piece := seqs [.access .connInfoMap, optional (.access .connInfoMap)]

def tcpSend : Piece := seqs [.access .connInfoMap, optional (.access .connInfoMap)]

def udpCreated : Piece := .locked .lock .skip

def udpClosed : Piece :=
  seqs [deleteProxyConnection,
    .locked .lock (seqs [.access .udpCtxMap, optional (.access .udpCtxMap)])]

def udpReceive : Piece := .skip

/-- `createProxyConnection` is called with the lock held; where it fails, the handler returns. -/
def handlerUdpSend : Piece :=
  .choose (.locked .lock (seqs [.access .udpCtxMap, createProxyConnection]))
    (seqs [.locked .lock (seqs [.access .udpCtxMap,
      optional (seqs [createProxyConnection, .access .udpCtxMap])]), udpSend])

end EventHandler

section Threads

/-- `Stop` frees the handler, and then `nf_free` waits for the driver's thread. -/
def stop : Piece := seqs [eventHandlerFree, .join .driver]

/-- The driver's thread delivers one event after the other until `nf_free` stops it, the worker
handles one completion after the other until its event is set. -/
def program : Thread → Piece
  | .driver => .loop (oneOf [tcpConnectRequest, tcpClosed, tcpReceive, tcpSend, udpCreated,
      udpClosed, udpReceive, handlerUdpSend])
  | .worker => .loop (optional onComplete)
  | .caller => seqs [eventHandlerInit, stop]

/-- Only a critical section may be entered twice; the lock of `EventHandler` is taken first. -/
def order : Order Thread Lock where
  recursive l := l = .mCs
  rank
    | .lock => 0
    | .mCs => 1
  bound := 2
  bounded l := by cases l <;> decide
  level
    | .caller => 1
    | _ => 0

def run (turns : List (Turn Thread)) : Locking.Threads Thread Lock Table :=
  (machine order.recursive).run (fun thread => [.code (program thread)]) turns

/-- No code takes the lock of `EventHandler` inside the critical section, or waits for a thread
with a lock held. -/
theorem ordered_program (thread : Thread) :
    Everywhere (ordered order) thread [] [] (program thread) := by
  cases thread <;> decide

theorem ordered_run (turns : List (Turn Thread)) : Sound (ordered order) (run turns) :=
  (Sound.initial ordered_program).run turns

/-- From every state that is reached, and whatever the data are, every thread can get to its
end: none is blocked for good. -/
theorem everyone_returns (turns : List (Turn Thread))
    (data : Locking.Threads Thread Lock Table → Thread → Bool) :
    ∃ schedule, ∀ thread, drive order.recursive data (run turns) schedule thread = [] :=
  everyone_ends (ordered_run turns) data

end Threads

section Guards

/-- What keeps two threads from touching a table at the same time. -/
def guarded : Condition Thread Lock Table where
  holds thread locks ended c :=
    match c with
    | .access .connInfoMap => thread = .driver
    | .access .udpCtxMap => .lock ∈ locks
    | .access _ => .mCs ∈ locks ∨ thread = .caller ∧ .worker ∈ ended
    | _ => True
  mono := by
    intro thread locks ended ended' c more holds
    cases c with
    | access table =>
      cases table with
      | connInfoMap | udpCtxMap => exact holds
      | socketMap | ovDataSet => exact holds.imp_right fun ⟨caller, gone⟩ => ⟨caller, more gone⟩
    | _ => trivial

instance (thread : Thread) (locks : List Lock) (ended : List Thread) :
    ∀ c, Decidable (guarded.holds thread locks ended c)
  | .access .connInfoMap => inferInstanceAs (Decidable (thread = .driver))
  | .access .udpCtxMap => inferInstanceAs (Decidable (.lock ∈ locks))
  | .access .socketMap =>
    inferInstanceAs (Decidable (.mCs ∈ locks ∨ thread = .caller ∧ .worker ∈ ended))
  | .access .ovDataSet =>
    inferInstanceAs (Decidable (.mCs ∈ locks ∨ thread = .caller ∧ .worker ∈ ended))
  | .skip => isTrue trivial
  | .seq _ _ => isTrue trivial
  | .choose _ _ => isTrue trivial
  | .loop _ => isTrue trivial
  | .locked _ _ => isTrue trivial
  | .join _ => isTrue trivial

theorem guarded_program (thread : Thread) :
    Everywhere guarded thread [] [] (program thread) := by
  cases thread <;> decide

theorem guarded_run (turns : List (Turn Thread)) : Sound guarded (run turns) :=
  (Sound.initial guarded_program).run turns

/-- The caller clears a table of the proxy while the driver's thread is at the same table. -/
structure AtFree (s : Locking.Threads Thread Lock Table) (table : Table) (i j : Thread) :
    Prop where
  table : table = .socketMap ∨ table = .ovDataSet
  threads : i = .caller ∧ j = .driver ∨ i = .driver ∧ j = .caller
  unlocked : .mCs ∉ held (s .caller)
  stopped : s .worker = []

variable {s : Locking.Threads Thread Lock Table} {table : Table} {i j : Thread}

theorem other_thread : ∀ thread : Thread, thread ≠ .caller → thread ≠ .worker →
    thread = .driver := by decide

/-- Where a thread stands at a table of the proxy, it has entered the critical section, or it is
the caller and the worker has ended. -/
theorem at_proxy_table (sound : Sound guarded s) (shared : table = .socketMap ∨ table = .ovDataSet)
    (standing : Standing s i table) :
    .mCs ∈ held (s i) ∨ i = .caller ∧ s .worker = [] := by
  obtain ⟨ended, gone, holds⟩ := sound.standing standing
  rcases shared with rfl | rfl <;> exact holds.imp_right fun ⟨caller, mem⟩ => ⟨caller, gone _ mem⟩

/-- Whoever meets the caller at a table of the proxy is the driver's thread. -/
theorem meets_caller (sound : Sound guarded s) (shared : table = .socketMap ∨ table = .ovDataSet)
    (conflict : Conflict s table .caller j) (stopped : s .worker = []) :
    j = .driver ∧ .mCs ∉ held (s .caller) := by
  obtain ⟨different, _, ⟨rest, there⟩⟩ := conflict
  have working : j ≠ .worker := by
    rintro rfl
    rw [stopped] at there
    cases there
  refine ⟨other_thread j (Ne.symm different) working, ?_⟩
  rcases at_proxy_table sound shared ⟨rest, there⟩ with entered | ⟨rfl, _⟩
  · exact fun mem => different (sound.exclusive .mCs .caller j mem entered)
  · exact absurd rfl different

theorem at_free (sound : Sound guarded s) (conflict : Conflict s table i j) :
    AtFree s table i j := by
  obtain ⟨different, first, second⟩ := conflict
  have shared : table = .socketMap ∨ table = .ovDataSet := by
    obtain ⟨_, _, one⟩ := sound.standing first
    obtain ⟨_, _, two⟩ := sound.standing second
    cases table with
    | connInfoMap => exact absurd (Eq.trans one (Eq.symm two)) different
    | udpCtxMap => exact absurd (sound.exclusive .lock i j one two) different
    | socketMap | ovDataSet => simp
  rcases at_proxy_table sound shared first with one | ⟨rfl, stopped⟩
  · rcases at_proxy_table sound shared second with two | ⟨rfl, stopped⟩
    · exact absurd (sound.exclusive .mCs i j one two) different
    · obtain ⟨driver, unlocked⟩ := meets_caller sound shared ⟨different.symm, second, first⟩ stopped
      exact ⟨shared, .inr ⟨driver, rfl⟩, unlocked, stopped⟩
  · obtain ⟨driver, unlocked⟩ := meets_caller sound shared ⟨different, first, second⟩ stopped
    exact ⟨shared, .inl ⟨rfl, driver⟩, unlocked, stopped⟩

/-- In every run, two threads are at the same table only where the caller clears a table of the
proxy, after the worker has ended and without the critical section, while the driver still
delivers its events. -/
theorem conflicts_at_free (turns : List (Turn Thread)) {table : Table} {i j : Thread}
    (conflict : Conflict (run turns) table i j) : AtFree (run turns) table i j :=
  at_free (guarded_run turns) conflict

def turns (thread : Thread) (branches : List Bool) : List (Turn Thread) :=
  branches.map fun branch => ⟨thread, branch, branch⟩

/-- The worker has ended, the caller stands at `m_ovDataSet`, and the driver's thread at the
same table inside `createProxyConnection`. -/
def meetAtRecords : List (Turn Thread) :=
  turns .worker [false] ++ turns .caller (List.replicate 8 true) ++
    turns .driver ([true] ++ List.replicate 7 false ++ [true] ++ List.replicate 12 false)

theorem meet_at_records : AtFree (run meetAtRecords) .ovDataSet .caller .driver :=
  conflicts_at_free meetAtRecords (by decide)

/-- The same at `m_socketMap`, when all records are gone. -/
def meetAtConnections : List (Turn Thread) :=
  turns .worker [false] ++ turns .caller (List.replicate 10 true ++ [false, false]) ++
    turns .driver ([true] ++ List.replicate 7 false ++ [true] ++ List.replicate 6 false)

/-- The tables at which two threads can meet are the two of the proxy. -/
theorem conflict_iff (table : Table) :
    (∃ turns i j, Conflict (run turns) table i j) ↔
      table = .socketMap ∨ table = .ovDataSet := by
  constructor
  · rintro ⟨turns, i, j, conflict⟩
    exact (at_free (guarded_run turns) conflict).table
  · rintro (rfl | rfl)
    · exact ⟨meetAtConnections, .caller, .driver, by decide⟩
    · exact ⟨meetAtRecords, .caller, .driver, by decide⟩

end Guards

end LockOrder
