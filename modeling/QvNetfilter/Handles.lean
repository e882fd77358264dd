import QvNetfilter.Chronicle
import QvNetfilter.Course

/-!
# Who owns a socket

A socket belongs to the endpoint that it was opened for until it is closed. The driver's
thread closes and opens sockets, and so does the worker thread when a connection fails,
while the system may hand out the number of a closed socket again at any time. An endpoint
must therefore close, and send on, only what it owns.
-/

namespace Handles

open Memory Socks Mealy Chronicle Course
open UdpProxy hiding Event step machine
open Relation (ReflTransGen)

/-- What an action does with a socket. A use is a send here. A receive is issued again on the
socket that the last one came from, which may have been closed in the meantime, and the calls
that register and connect the sockets of a create are left out as well. -/
def move : Action → Option (Move Socket)
  | .opened _ (some socket) => some (.acquire socket)
  | .closed socket => some (.release socket)
  | .call (.wsaSend socket _) _ => some (.use socket)
  | .call (.wsaSendTo socket _ _ _) _ => some (.use socket)
  | _ => none

def moves (log : List (EndpointId × Action)) : List (EndpointId × Move Socket) :=
  log.filterMap fun a => (move a.2).map (Prod.mk a.1)

def entrySockets : Option ProxyData → List Socket
  | none => []
  | some pd => [pd.tcpSocket, pd.udpSocket]

/-- The sockets of an endpoint: those of its entry, and those that the driver's thread is
about to store for it. -/
def held (s : Sight) (id : EndpointId) : List Socket :=
  atIndex id s.hand ++ entrySockets (s.socketMap id)

section Steps
variable {s : Sight} {id : EndpointId}

theorem moves_append (log more : List (EndpointId × Action)) :
    moves (log ++ more) = moves log ++ moves more := List.filterMap_append ..

theorem moves_record (a : Action) :
    moves (s.record id a).log = moves s.log ++ ((move a).map (Prod.mk id)).toList := by
  simp only [Sight.record, moves_append]
  cases hmove : move a <;> simp [moves, hmove]

/-- The entry keeps its sockets. -/
theorem held_setEntry {pd pd' : ProxyData} (entry : s.socketMap id = some pd)
    (same : entrySockets (some pd') = entrySockets (some pd)) :
    held (s.setEntry id (some pd')) = held s := by
  funext j
  simp only [held, Sight.setEntry]
  by_cases own : j = id
  · subst own
    rw [Function.update_self, same, entry]
  · rw [Function.update_of_ne own]

theorem held_moved {pd : ProxyData} (entry : s.socketMap id = some pd) (next : ProxyState)
    (sent : Bool) : held (s.moved id pd next sent) = held s := by
  cases sent with
  | true => exact held_setEntry entry rfl
  | false => rfl

/-- An action that moves no socket. -/
theorem kept_record {a : Action} (kept : Kept (held s) (moves s.log)) (still : move a = none) :
    Kept (held s) (moves (s.record id a).log) := by
  rw [moves_record, still]
  simpa using kept

theorem kept_use {a : Action} {socket : Socket} (kept : Kept (held s) (moves s.log))
    (uses : move a = some (.use socket)) (mine : socket ∈ held s id) :
    Kept (held s) (moves (s.record id a).log) := by
  rw [moves_record, uses]
  exact kept.use mine

theorem held_tcpSocket {pd : ProxyData} (entry : s.socketMap id = some pd) :
    pd.tcpSocket ∈ held s id := by
  simp [held, entry, entrySockets]

theorem held_udpSocket {pd : ProxyData} (entry : s.socketMap id = some pd) :
    pd.udpSocket ∈ held s id := by
  simp [held, entry, entrySockets]

theorem kept_opens {type : SocketType} {socket : Socket} (kept : Kept (held s) (moves s.log))
    (fresh : holder (moves s.log) socket = none) :
    Kept (held ((s.record id (.opened type (some socket))).take id socket))
      (moves (s.record id (.opened type (some socket))).log) := by
  have all := @moves_record s id (.opened type (some socket))
  rw [all]
  refine (kept.acquire id fresh).perm fun j => ?_
  simp only [held, Sight.take, Sight.record, atIndex_append]
  by_cases own : j = id
  · subst own
    rw [Function.update_self]
    simp only [atIndex_cons_self, atIndex_nil, List.append_assoc]
    exact List.perm_append_comm.append_left _
  · rw [Function.update_of_ne own, atIndex_cons_ne (Ne.symm own), atIndex_nil, List.append_nil]
    exact .refl _

/-- The one socket in the driver's hand is closed when there is no second one. -/
theorem kept_gives {socket : Socket} (kept : Kept (held s) (moves s.log))
    (hand : s.hand = [(id, socket)]) :
    Kept (held (s.record id (.closed socket)).drop)
      (moves (s.record id (.closed socket)).log) := by
  have mine : socket ∈ held s id := by simp [held, hand]
  have all := @moves_record s id (.closed socket)
  rw [all]
  refine (kept.release mine).perm fun j => ?_
  simp only [held, Sight.drop, Sight.record, hand]
  by_cases own : j = id
  · subst own
    simp
  · rw [Function.update_of_ne own]
    simp [held, hand, atIndex_cons_ne (Ne.symm own)]

theorem held_stores {tcpSocket udpSocket : Socket} (config : Config)
    (hand : s.hand = [(id, tcpSocket), (id, udpSocket)]) (vacant : s.socketMap id = none) :
    held ((s.setEntry id (some (ProxyData.new config tcpSocket udpSocket))).record id
      .created).drop = held s := by
  funext j
  simp only [held, Sight.drop, Sight.record, Sight.setEntry, hand]
  by_cases own : j = id
  · subst own
    simp [vacant, entrySockets, ProxyData.new]
  · simp [Function.update_of_ne own, atIndex_cons_ne (Ne.symm own)]

theorem kept_deletes {pd : ProxyData} (kept : Kept (held s) (moves s.log))
    (entry : s.socketMap id = some pd) :
    Kept (held (((s.record id (.closed pd.tcpSocket)).record id
        (.closed pd.udpSocket)).setEntry id none))
      (moves ((s.record id (.closed pd.tcpSocket)).record id (.closed pd.udpSocket)).log) := by
  have two : held s id = atIndex id s.hand ++ [pd.tcpSocket, pd.udpSocket] := by
    simp [held, entry, entrySockets]
  have different : pd.udpSocket ≠ pd.tcpSocket := by
    have once := kept.once id
    rw [two, List.nodup_append] at once
    have pair := once.2.1
    rintro same
    simp [same] at pair
  have first := kept.release (held_tcpSocket entry)
  have mine : pd.udpSocket ∈
      Function.update (held s) id ((held s id).erase pd.tcpSocket) id := by
    rw [Function.update_self, List.mem_erase_of_ne different]
    exact held_udpSocket entry
  have second := first.release mine
  have all := @moves_record (s.record id (.closed pd.tcpSocket)) id
    (.closed pd.udpSocket)
  rw [all, moves_record]
  refine second.perm fun j => ?_
  simp only [held, Sight.record, Sight.setEntry]
  by_cases own : j = id
  · subst own
    simp only [Function.update_self, entrySockets, entry, List.append_nil]
    have once := kept.once j
    rw [two] at once
    have apart := List.disjoint_of_nodup_append once
    rw [List.erase_append_right _ fun present => apart present (by simp),
      List.erase_append_right _ fun present => apart present (by simp)]
    simp
  · simp only [Function.update_of_ne own]
    exact .refl _

/-- Every deed moves only sockets that its endpoint owns. -/
theorem kept_deed {config : Config} {given : EndpointId → Bytes → Prop} {s' : Sight}
    (deed : Deed config given id s s')
    (kept : Kept (held s) (moves s.log)) (fresh : Preceded Fresh (moves s'.log)) :
    Kept (held s') (moves s'.log) := by
  cases deed with
  | @asked c plain accepted =>
    refine kept_record kept ?_
    cases c with
    | connectEx | wsaSend | wsaSendTo => exact absurd plain not_false
    | _ => rfl
  | connects socket accepted | notOpened | ignores | drops => exact kept_record kept rfl
  | @greets pd entry accepted =>
    have used := kept_use kept (a := .call (.wsaSend pd.tcpSocket
      (socks5AuthRequest (offeredMethod pd.userName))) accepted) rfl (held_tcpSocket entry)
    have same : (s.record id (.call (.wsaSend pd.tcpSocket
        (socks5AuthRequest (offeredMethod pd.userName))) accepted)).socketMap id = some pd := entry
    rw [held_moved same, moved_log]
    exact used
  | @answers pd reply message next entry answer accepted =>
    have received := @kept_record s id (.received .ovtTcpReceive reply) kept rfl
    have used := @kept_use (s.record id (.received .ovtTcpReceive reply)) id
      (.call (.wsaSend pd.tcpSocket message) accepted) pd.tcpSocket received rfl
      (held_tcpSocket entry)
    have same : ((s.record id (.received .ovtTcpReceive reply)).record id
        (.call (.wsaSend pd.tcpSocket message) accepted)).socketMap id = some pd := entry
    rw [held_moved same, moved_log]
    exact used
  | @associates pd buffer reply addr entry waiting relay =>
    have received := @kept_record s id (.received .ovtTcpReceive reply) kept rfl
    have same : (s.record id (.received .ovtTcpReceive reply)).socketMap id = some pd := entry
    rw [held_setEntry same]
    · exact received
    · rfl
  | @sends pd entry established buf supplied remoteAddress accepted =>
    exact kept_use kept rfl (held_udpSocket entry)
  | @keeps pd entry queue supplied started =>
    rw [held_setEntry entry]
    · exact kept
    · rfl
  | @delivers buffer data d room parsed =>
    have received := @kept_record s id (.received .ovtUdpReceive data) kept rfl
    exact @kept_record (s.record id (.received .ovtUdpReceive data)) id _ received rfl
  | @opens type turn socket =>
    have handed := @moves_record s id (.opened type (some socket))
    have whole : Preceded Fresh (moves (s.record id (.opened type (some socket))).log) := fresh
    rw [handed] at whole
    exact kept_opens kept whole.last
  | gives hand => exact kept_gives kept hand
  | @stores tcpSocket udpSocket hand vacant =>
    rw [held_stores config hand vacant]
    exact @kept_record _ id .created kept rfl
  | deletes entry => exact kept_deletes kept entry

end Steps

section Runs
variable {os : Os} {config : Config}

theorem kept_runs {given : EndpointId → Bytes → Prop} {s : Sight}
    (runs : Runs config given Sight.initial s)
    (fresh : Preceded Fresh (moves s.log)) : Kept (held s) (moves s.log) := by
  induction runs with
  | refl => exact Kept.nil
  | tail runs deed ih =>
    obtain ⟨id, deed⟩ := deed
    obtain ⟨more, all⟩ := deed.grows
    have before := fresh
    rw [← all, moves_append] at before
    exact kept_deed deed (ih before.front) fresh

/-- As long as the system hands out no socket that is still open, an endpoint closes only
sockets that it has opened and not closed before, and sends on no other ones. -/
theorem sockets_in_custody {evs : List Isolation.Event}
    (fresh : Preceded Fresh (moves (seen os config evs).log)) :
    Preceded Allowed (moves (seen os config evs).log) :=
  (kept_runs (runs_run os config evs) fresh).allowed

/-- Two queries; the second endpoint is given the numbers of the sockets that the first one
has closed. -/
def renumbered : List Isolation.Event :=
  Isolation.queried 7 0 ++ [.udpClosed 7, .driver 7] ++ Isolation.queried 9 0

theorem renumbered_in_custody :
    Preceded Allowed (moves (seen acceptingOs Tables.proxyConfig renumbered).log) :=
  sockets_in_custody (by decide +kernel)

/-- A socket that was opened and not closed is in the table, or the driver's thread is about
to store it. -/
theorem sockets_accounted {evs : List Isolation.Event}
    (fresh : Preceded Fresh (moves (seen os config evs).log)) (id : EndpointId)
    (socket : Socket) :
    holder (moves (seen os config evs).log) socket = some id ↔
      socket ∈ held (seen os config evs) id :=
  (kept_runs (runs_run os config evs) fresh).holds id socket

theorem renumbered_accounted :
    holder (moves (seen acceptingOs Tables.proxyConfig renumbered).log) 1 = some 9 ↔
      1 ∈ held (seen acceptingOs Tables.proxyConfig renumbered) 9 :=
  sockets_accounted (by decide +kernel) 9 1

/-- A socket that is closed twice was opened in between. -/
theorem opened_between {evs : List Isolation.Event}
    (fresh : Preceded Fresh (moves (seen os config evs).log)) {i j : EndpointId}
    {socket : Socket} {front between back : List (EndpointId × Move Socket)}
    (split : moves (seen os config evs).log =
      front ++ (i, .release socket) :: between ++ (j, .release socket) :: back) :
    ∃ k, (k, .acquire socket) ∈ between :=
  acquired_between (kept_runs (runs_run os config evs) fresh).allowed (Or.inr rfl) split

end Runs

end Handles
