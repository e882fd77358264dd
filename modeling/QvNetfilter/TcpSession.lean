import QvNetfilter.TcpInbound

/-!
# A redirected connection from end to end

The application's end, the driver with the handler, a SOCKS4 server and the destination,
with the bytes on their way between them. The server is no part of the repository: it reads
one request, grants or refuses it, and from then on carries bytes to and from the
destination. The streams may be cut anywhere.
-/

namespace TcpSession

open Memory Socks Mealy TcpRedirect TcpOutbound TcpInbound

section Server

/-- What a server decides about the first eight bytes of a request, and the port and the
address of its reply. -/
structure Policy where
  grants : Bytes → Bool
  bound : Bytes
  size : bound.length = 6

/-- A request ends with the first zero behind its address. -/
def frame (s : Bytes) : Option (Bytes × Bytes) :=
  if 0 ∈ s.drop 8 then some (s.take 8, ((s.drop 8).dropWhile fun b => b ≠ 0).tail) else none

/-- Request rejected or failed. -/
def s4rcFailed : UInt8 := 0x5b

inductive Server where
  | reading (buffer : Bytes)
  | relaying (header : Bytes)
  | refused (header : Bytes)

def Policy.reply (policy : Policy) (granted : Bool) : Bytes :=
  [0, if granted then s4rcSuccess else s4rcFailed] ++ policy.bound

end Server

section Model

/-- The application's end: the writes and the bytes of them that came before the first chunk
of the server's stream, that chunk, what was written since then, and what was received. -/
structure Near where
  writes : Nat
  held : Bytes
  first : Option Bytes
  later : Bytes
  received : Bytes

/-- What is on its way to the server and back. -/
structure Link where
  upward : Bytes
  server : Server
  downward : Bytes

/-- Both directions at the destination. -/
structure Far where
  forwarded : Bytes
  answered : Bytes

structure Session where
  near : Near
  wire : Wire
  link : Link
  far : Far

def Near.written (near : Near) : Bytes := near.held ++ near.later

def Session.opened (wire : Wire) : Session where
  near := ⟨0, [], none, [], []⟩
  wire := wire
  link := ⟨[], .reading [], []⟩
  far := ⟨[], []⟩

inductive Event where
  | connect (pConnInfo : ConnInfo)
  | close
  | write (buf : Bytes)
  /-- The server gets some of the bytes on their way to it. -/
  | read (n : Nat)
  /-- The driver gets the next chunk of the server's stream. -/
  | arrive (n : Nat)
  | answer (buf : Bytes)
deriving DecidableEq

/-- The bytes of a post; `nf_tcpPostSend` gets the length of data as an `int`. -/
def carried : PostSend → Bytes
  | .request r => r.bytes
  | .data buf len => counted buf len

/-- The bytes that are sent to the server. -/
def sentUp (outs : List WireOutput) : Bytes :=
  outs.flatMap fun
    | .toServer p => carried p
    | .toApplication _ => []

/-- What the driver sees of an event. -/
def wireEvent (link : Link) : Event → Option WireEvent
  | .connect info => some (.connectRequest info)
  | .close => some .closed
  | .write buf => some (.fromApplication buf)
  | .arrive n =>
    if link.downward = [] then none else some (.fromServer (link.downward.take (n + 1)))
  | .read _ => none
  | .answer _ => none

/-- The driver has carried out what the handler asked for. -/
def carry (s : Session) (stepped : Wire × List WireOutput) : Session :=
  { s with
    near := { s.near with received := s.near.received ++ delivered stepped.2 }
    wire := stepped.1
    link := { s.link with upward := s.link.upward ++ sentUp stepped.2 } }

/-- The application's bytes come before or after the first chunk. -/
def Near.write (near : Near) (buf : Bytes) : Near :=
  match near.first with
  | none => { near with writes := near.writes + 1, held := near.held ++ buf }
  | some _ => { near with later := near.later ++ buf }

theorem Near.write_held {near : Near} (first : near.first = none) (buf : Bytes) :
    near.write buf = { near with writes := near.writes + 1, held := near.held ++ buf } := by
  rw [Near.write, first]

theorem Near.write_later {near : Near} {chunk : Bytes} (first : near.first = some chunk)
    (buf : Bytes) : near.write buf = { near with later := near.later ++ buf } := by
  rw [Near.write, first]

/-- The server reads these bytes. -/
def serve (policy : Policy) (s : Session) (bytes : Bytes) : Session :=
  match s.link.server with
  | .reading buffer =>
    match frame (buffer ++ bytes) with
    | none => { s with link := { s.link with server := .reading (buffer ++ bytes) } }
    | some (header, rest) =>
      if policy.grants header then
        { s with
          link := { s.link with
            server := .relaying header
            downward := s.link.downward ++ policy.reply true }
          far := { s.far with forwarded := s.far.forwarded ++ rest } }
      else
        { s with link := { s.link with
          server := .refused header
          downward := s.link.downward ++ policy.reply false } }
  | .relaying _ => { s with far := { s.far with forwarded := s.far.forwarded ++ bytes } }
  | .refused _ => s

/-- An event of a connection, when the driver has done its part. -/
def proceed (policy : Policy) (s : Session) (stepped : Wire × List WireOutput) :
    Event → Session
  | .connect _ => .opened stepped.1
  | .close => .opened stepped.1
  | .write buf => carry { s with near := s.near.write buf } stepped
  | .read n =>
    serve policy { s with link := { s.link with upward := s.link.upward.drop n } }
      (s.link.upward.take n)
  | .arrive n =>
    if s.link.downward = [] then s
    else
      carry { s with
        near := { s.near with first := s.near.first <|> some (s.link.downward.take (n + 1)) }
        link := { s.link with downward := s.link.downward.drop (n + 1) } } stepped
  | .answer buf =>
    match s.link.server with
    | .relaying _ => { s with
        link := { s.link with downward := s.link.downward ++ buf }
        far := { s.far with answered := s.far.answered ++ buf } }
    | _ => s

/-- One connection by itself. -/
def session (policy : Policy) (proxyAddress : Address) : Machine Session Event Unit where
  step s e :=
    match wireEvent s.link e with
    | none => (proceed policy s (s.wire, []) e, [])
    | some we => (proceed policy s ((wire proxyAddress).step s.wire we) e, [])

end Model

section Requests
variable {target : Address}

/-- The handler's request for the address that the application asked for. -/
def request (target : Address) : Bytes := (connectTo target).bytes

/-- The request is its header and an empty user id. -/
theorem request_eq : ∃ header : Bytes, header.length = 8 ∧ request target = header ++ [0] := by
  refine ⟨[socks4, s4cConnect] ++ target.sinPort ++ target.sinAddr, ?_, rfl⟩
  simp [Address.sinPort, Address.sinAddr]

theorem request_length : (request target).length = 9 := by
  obtain ⟨header, eight, same⟩ := @request_eq target
  rw [same, List.length_append, eight]
  rfl

/-- A request is read as a whole, and nothing behind it. -/
theorem frame_request (rest : Bytes) :
    frame (request target ++ rest) = some ((request target).take 8, rest) := by
  obtain ⟨header, eight, same⟩ := @request_eq target
  have behind : (header ++ [0] ++ rest).drop 8 = 0 :: rest := by
    rw [List.append_assoc, ← eight, List.drop_left]
    rfl
  have before : (header ++ [0] ++ rest).take 8 = (header ++ [0]).take 8 := by
    rw [List.append_assoc, ← eight, List.take_left, List.take_left]
  rw [same, frame, behind, before]
  simp

theorem frame_short {s : Bytes} (short : s.length < 9) : frame s = none := by
  have empty : s.drop 8 = [] := List.drop_eq_nil_of_le (by omega)
  simp [frame, empty]

/-- A whole request that was read is the first one of many. -/
theorem frame_requests {k : Nat} {bytes more header rest : Bytes}
    (requests : bytes ++ more = (List.replicate k (request target)).flatten)
    (found : frame bytes = some (header, rest)) :
    0 < k ∧ header = (request target).take 8 ∧ bytes = request target ++ rest := by
  have long : 9 ≤ bytes.length := by
    by_contra short
    rw [frame_short (by omega)] at found
    cases found
  cases k with
  | zero =>
    obtain ⟨rfl, _⟩ := List.append_eq_nil_iff.mp requests
    exact absurd long (by decide)
  | succ k =>
    rw [List.replicate_succ, List.flatten_cons] at requests
    have front : request target <+: bytes := List.prefix_of_prefix_length_le
      ⟨_, requests.symm⟩ ⟨more, rfl⟩ (by rw [request_length]; exact long)
    obtain ⟨rest', rfl⟩ := front
    rw [frame_request] at found
    obtain ⟨rfl, rfl⟩ := Prod.mk.inj (Option.some_inj.mp found)
    exact ⟨Nat.succ_pos k, rfl, rfl⟩

end Requests

section Driver
variable {proxyAddress target : Address} {held : Bytes} {filtered : Bool}

theorem write_waiting (ipv4 : target.saFamily ≠ afInet6) (buf : Bytes) :
    (wire proxyAddress).step ⟨some ⟨target, held⟩, true⟩ (.fromApplication buf) =
      (⟨some ⟨target, held ++ buf⟩, true⟩, [.toServer (.request (connectTo target))]) := by
  simp [wire, Wire.indicate, connection, ipv4, filteredAfter, posted]

theorem write_released (buf : Bytes) :
    (wire proxyAddress).step ⟨none, filtered⟩ (.fromApplication buf) =
      (⟨none, filtered⟩, [.toServer (.data buf buf.length)]) := by
  cases filtered <;> simp [wire, Wire.indicate, connection, filteredAfter, posted]

theorem arrive_waiting (chunk : Bytes) :
    (wire proxyAddress).step ⟨some ⟨target, held⟩, true⟩ (.fromServer chunk) =
      (⟨none, true⟩, (flush held).filterMap posted) := by
  simp [wire, Wire.indicate, connection, flush_filtered]

theorem arrive_released (chunk : Bytes) :
    (wire proxyAddress).step ⟨none, filtered⟩ (.fromServer chunk) =
      (⟨none, false⟩, [.toApplication chunk]) := by
  cases filtered <;> simp [wire, Wire.indicate, connection, filteredAfter, posted]

theorem sentUp_flush (held : Bytes) :
    sentUp ((flush held).filterMap posted) = counted held (toInt32 held.length) := by
  rw [flush]
  split
  · rename_i empty
    subst empty
    rfl
  · simp [posted, sentUp, carried]

end Driver

section Account
variable (policy : Policy) (target : Address)

/-- What the handler has posted towards the server: a request for every write before the first
chunk, then what those writes held, and all later ones. -/
def postedUp (near : Near) : Bytes :=
  (List.replicate near.writes (request target)).flatten ++
    if near.first = none then []
    else counted near.held (toInt32 near.held.length) ++ near.later

/-- What the server has sent. -/
def sentDown (server : Server) (far : Far) : Bytes :=
  match server with
  | .reading _ => []
  | .relaying _ => policy.reply true ++ far.answered
  | .refused _ => policy.reply false

/-- The handler holds back what is written until the first chunk comes. -/
inductive Holds (near : Near) (wire : Wire) : Prop where
  | waiting (first : near.first = none) (here : wire = ⟨some ⟨target, near.held⟩, true⟩)
      (received : near.received = []) (later : near.later = [])
  | released {chunk : Bytes} (first : near.first = some chunk) (nonempty : chunk ≠ [])
      (gone : wire.entry = none)

/-- The server has read a part of what was posted; behind a request it forwards. -/
inductive Reads (near : Near) (link : Link) (far : Far) : Prop where
  | reading {buffer : Bytes} (server : link.server = .reading buffer)
      (incomplete : frame buffer = none) (posted : buffer ++ link.upward = postedUp target near)
      (unused : far = ⟨[], []⟩)
  | relaying (server : link.server = .relaying ((request target).take 8))
      (written : 0 < near.writes)
      (posted : request target ++ far.forwarded ++ link.upward = postedUp target near)
  | refused (server : link.server = .refused ((request target).take 8))
      (written : 0 < near.writes)

/-- Where all bytes of a connection are. -/
structure Account (s : Session) : Prop where
  holds : Holds target s.near s.wire
  reads : Reads target s.near s.link s.far
  stream : s.near.first.getD [] ++ s.near.received ++ s.link.downward =
    sentDown policy s.link.server s.far

variable {policy target} {s : Session}

/-- Before the server has answered, only requests are posted. -/
theorem Account.unanswered (account : Account policy target s) {buffer : Bytes}
    (server : s.link.server = .reading buffer) :
    postedUp target s.near = (List.replicate s.near.writes (request target)).flatten := by
  have nothing := account.stream
  rw [server] at nothing
  have first : s.near.first = none := by
    cases account.holds with
    | waiting first => exact first
    | released first nonempty =>
      rw [first] at nothing
      simp only [sentDown, Option.getD_some, List.append_eq_nil_iff] at nothing
      exact absurd nothing.1.1 nonempty
  rw [postedUp, if_pos first, List.append_nil]

theorem account_read (account : Account policy target s) (n : Nat)
    (stepped : Wire × List WireOutput) :
    Account policy target (proceed policy s stepped (.read n)) := by
  have whole : s.link.upward.take n ++ s.link.upward.drop n = s.link.upward :=
    List.take_append_drop ..
  have stream := account.stream
  cases account.reads with
  | @reading buffer server incomplete posted unused =>
    have requests := account.unanswered server
    have split : buffer ++ s.link.upward.take n ++ s.link.upward.drop n =
        postedUp target s.near := by
      rw [List.append_assoc, whole, posted]
    rw [server] at stream
    simp only [proceed, serve, server]
    cases found : frame (buffer ++ s.link.upward.take n) with
    | none => exact ⟨account.holds, .reading rfl found split unused, stream⟩
    | some next =>
      obtain ⟨header, rest⟩ := next
      obtain ⟨written, rfl, read⟩ := frame_requests (split.trans requests) found
      rw [read] at split
      have forwarded : s.far.forwarded = [] := by rw [unused]
      have answered : s.far.answered = [] := by rw [unused]
      simp only
      split
      · refine ⟨account.holds, .relaying rfl written ?_, ?_⟩
        · simpa only [forwarded, List.nil_append] using split
        · rw [← List.append_assoc, stream, answered]
          simp [sentDown]
      · refine ⟨account.holds, .refused rfl written, ?_⟩
        rw [← List.append_assoc, stream]
        rfl
  | relaying server written posted =>
    simp only [proceed, serve, server]
    rw [server] at stream
    refine ⟨account.holds, .relaying rfl written ?_, stream⟩
    rw [← posted, List.append_assoc, List.append_assoc, List.append_assoc, whole]
  | refused server written =>
    simp only [proceed, serve, server]
    rw [server] at stream
    exact ⟨account.holds, .refused rfl written, stream⟩

/-- What is posted is on its way to the server, whatever the server has read. -/
theorem Reads.carry {near near' : Near} {link : Link} {far : Far}
    (reads : Reads target near link far) {bytes : Bytes}
    (more : postedUp target near' = postedUp target near ++ bytes)
    (writes : near.writes ≤ near'.writes) (downward : Bytes) :
    Reads target near' ⟨link.upward ++ bytes, link.server, downward⟩ far := by
  cases reads with
  | reading server incomplete posted unused =>
    refine .reading server incomplete ?_ unused
    rw [more, ← List.append_assoc, posted]
  | relaying server written posted =>
    refine .relaying server (by omega) ?_
    rw [more, ← List.append_assoc, posted]
  | refused server written => exact .refused server (by omega)

theorem account_write {proxyAddress : Address} (ipv4 : target.saFamily ≠ afInet6)
    (account : Account policy target s) (buf : Bytes) :
    Account policy target (proceed policy s
      ((wire proxyAddress).step s.wire (.fromApplication buf)) (.write buf)) := by
  have stream := account.stream
  cases account.holds with
  | waiting first here received later =>
    have more : postedUp target { s.near with
        writes := s.near.writes + 1, held := s.near.held ++ buf } =
          postedUp target s.near ++ request target := by
      simp [postedUp, first, List.replicate_succ']
    have reads := account.reads.carry more (Nat.le_succ _) s.link.downward
    rw [here, write_waiting ipv4]
    simp only [proceed, Near.write_held first, carry, delivered, sentUp, carried,
      List.flatMap_cons, List.flatMap_nil, List.append_nil]
    exact ⟨.waiting first rfl received later, reads, stream⟩
  | @released chunk first nonempty gone =>
    have more : postedUp target { s.near with later := s.near.later ++ buf } =
        postedUp target s.near ++ buf := by
      simp [postedUp, first, List.append_assoc]
    have reads := account.reads.carry more (Nat.le_refl _) s.link.downward
    have here : s.wire = ⟨none, s.wire.filtered⟩ := by rw [← gone]
    rw [here, write_released]
    simp only [proceed, Near.write_later first, carry, delivered, sentUp, carried,
      List.flatMap_cons, List.flatMap_nil, List.append_nil, counted_length]
    exact ⟨.released first nonempty rfl, reads, stream⟩

theorem account_arrive {proxyAddress : Address} (account : Account policy target s) {n : Nat}
    (coming : s.link.downward ≠ []) :
    Account policy target (proceed policy s
      ((wire proxyAddress).step s.wire (.fromServer (s.link.downward.take (n + 1))))
      (.arrive n)) := by
  have whole : s.link.downward.take (n + 1) ++ s.link.downward.drop (n + 1) = s.link.downward :=
    List.take_append_drop ..
  have nonempty : s.link.downward.take (n + 1) ≠ [] := by
    simp [coming]
  have stream := account.stream
  simp only [proceed, if_neg coming]
  generalize s.link.downward.take (n + 1) = chunk at whole nonempty ⊢
  generalize s.link.downward.drop (n + 1) = rest at whole ⊢
  rw [← whole] at stream
  cases account.holds with
  | waiting first here received later =>
    have more : postedUp target { s.near with first := s.near.first <|> some chunk } =
        postedUp target s.near ++ counted s.near.held (toInt32 s.near.held.length) := by
      simp [postedUp, first, later]
    have reads := account.reads.carry more (Nat.le_refl _) rest
    have now : (s.near.first <|> some chunk) = some chunk := by rw [first]; rfl
    rw [here, arrive_waiting]
    simp only [carry, sentUp_flush, flush_delivered, List.append_nil]
    rw [first, received] at stream
    exact ⟨.released now nonempty rfl, reads, by simpa [now, received] using stream⟩
  | @released before first present gone =>
    have now : (s.near.first <|> some chunk) = some before := by rw [first]; rfl
    have more : postedUp target { s.near with
        first := s.near.first <|> some chunk, received := s.near.received ++ chunk } =
          postedUp target s.near ++ [] := by
      simp [postedUp, first]
    have reads := account.reads.carry more (Nat.le_refl _) rest
    have here : s.wire = ⟨none, s.wire.filtered⟩ := by rw [← gone]
    rw [here, arrive_released]
    simp only [carry, sentUp, delivered, List.flatMap_cons, List.flatMap_nil, List.append_nil]
      at reads ⊢
    rw [first] at stream
    exact ⟨.released now present rfl, reads, by simpa [now] using stream⟩

theorem account_answer (account : Account policy target s) (buf : Bytes)
    (stepped : Wire × List WireOutput) :
    Account policy target (proceed policy s stepped (.answer buf)) := by
  have stream := account.stream
  cases account.reads with
  | reading server | refused server =>
    simp only [proceed, server]
    exact account
  | relaying server written posted =>
    simp only [proceed, server]
    rw [server] at stream
    refine ⟨account.holds, .relaying rfl written posted, ?_⟩
    rw [← List.append_assoc, stream, sentDown, List.append_assoc]
    rfl

theorem account_connect {proxyAddress : Address} {info : ConnInfo} {stepped}
    (redirected : isProxyAddress proxyAddress info.remoteAddress = false)
    (done : (wire proxyAddress).step s.wire (.connectRequest info) = stepped) :
    Account policy info.remoteAddress (proceed policy s stepped (.connect info)) := by
  have flag : (redirect proxyAddress info).filteringFlag = info.filteringFlag ||| nfFilter := by
    simp [redirect, redirected]
  have here : stepped.1 = ⟨some ⟨info.remoteAddress, []⟩, true⟩ := by
    rw [← done]
    simp [wire, Wire.indicate, connection, filteredAfter, flag, or_nfFilter]
  exact ⟨.waiting rfl here rfl rfl, .reading rfl (frame_short (by decide)) rfl rfl, rfl⟩

/-- The connection is neither requested again nor closed. -/
def Event.within : Event → Bool
  | .connect _ => false
  | .close => false
  | _ => true

theorem account_step {proxyAddress : Address} (ipv4 : target.saFamily ≠ afInet6)
    (account : Account policy target s) {e : Event} (within : e.within = true) :
    Account policy target ((session policy proxyAddress).step s e).1 := by
  cases e with
  | connect | close => cases within
  | write buf => exact account_write ipv4 account buf
  | read n => exact account_read account n (s.wire, [])
  | answer buf => exact account_answer account buf (s.wire, [])
  | arrive n =>
    by_cases coming : s.link.downward = []
    · simpa only [session, wireEvent, if_pos coming, proceed] using account
    · have moved := @account_arrive policy target s proxyAddress account n coming
      simpa only [session, wireEvent, if_neg coming] using moved

/-- Wherever a connection came from, its bytes are accounted for from its request on. -/
theorem account_run {proxyAddress : Address} {info : ConnInfo} {evs : List Event}
    (ipv4 : info.remoteAddress.saFamily ≠ afInet6)
    (redirected : isProxyAddress proxyAddress info.remoteAddress = false)
    (within : ∀ e ∈ evs, e.within = true) :
    Account policy info.remoteAddress
      ((session policy proxyAddress).run s (.connect info :: evs)) := by
  have first : Account policy info.remoteAddress
      ((session policy proxyAddress).step s (.connect info)).1 := account_connect redirected rfl
  exact (session policy proxyAddress).run_invariant
    (I := Account policy info.remoteAddress) (fun _ _ account now => account_step ipv4 account now)
    first within

end Account

section System

/-- The driver with the handler, and what is around it on every connection. -/
structure System where
  driver : Driver
  near : EndpointId → Near
  link : EndpointId → Link
  far : EndpointId → Far

namespace System

def session (S : System) (id : EndpointId) : Session :=
  ⟨S.near id, S.driver.view id, S.link id, S.far id⟩

def put (S : System) (driver : Driver) (id : EndpointId) (s : Session) : System where
  driver := driver
  near := Function.update S.near id s.near
  link := Function.update S.link id s.link
  far := Function.update S.far id s.far

def machine (policy : Policy) : Machine System (EndpointId × Event) (EndpointId × Unit) where
  step S e :=
    match wireEvent (S.link e.1) e.2 with
    | none =>
      (S.put S.driver e.1 (proceed policy (S.session e.1) (S.driver.view e.1, []) e.2), [])
    | some we =>
      let (driver, outs) := Driver.machine.step S.driver (e.1, we)
      (S.put driver e.1
        (proceed policy (S.session e.1) (driver.view e.1, atIndex e.1 outs) e.2), [])

end System

theorem serve_wire (policy : Policy) (s : Session) (bytes : Bytes) :
    (serve policy s bytes).wire = s.wire := by
  simp only [serve]
  split
  · split
    · rfl
    · split <;> rfl
  · rfl
  · rfl

/-- Only the driver moves a wire. -/
theorem proceed_wire (policy : Policy) (s : Session) (stepped : Wire × List WireOutput)
    (e : Event) (seen : wireEvent s.link e = none → stepped.1 = s.wire) :
    (proceed policy s stepped e).wire = stepped.1 := by
  cases e with
  | connect | close | write => rfl
  | read n => exact (serve_wire ..).trans (seen rfl).symm
  | arrive n =>
    by_cases coming : s.link.downward = []
    · rw [proceed, if_pos coming]
      exact (seen (if_pos coming)).symm
    · rw [proceed, if_neg coming]
      rfl
  | answer buf =>
    simp only [proceed]
    split <;> exact (seen rfl).symm

theorem session_put {S : System} {driver : Driver} {id : EndpointId} {s : Session}
    (view : driver.view = Function.update S.driver.view id s.wire) :
    (S.put driver id s).session = Function.update S.session id s := by
  funext j
  by_cases own : j = id
  · subst own
    simp [System.put, System.session, view]
  · simp [System.put, System.session, view, own]

/-- The connections run by themselves, whatever order their events come in. -/
theorem system_components (policy : Policy) (proxyAddress : Address) :
    Components (System.machine policy) (session policy proxyAddress)
      (fun S => S.driver.handler.proxyAddress = proxyAddress) System.session := by
  have components := driver_components proxyAddress
  have step : ∀ S e, S.driver.handler.proxyAddress = proxyAddress →
      ((System.machine policy).step S e).1.driver.handler.proxyAddress = proxyAddress ∧
        ((System.machine policy).step S e).1.session =
          ((family (session policy proxyAddress)).step S.session e).1 ∧
        ((System.machine policy).step S e).2 =
          ((family (session policy proxyAddress)).step S.session e).2 := by
    rintro S ⟨id, e⟩ same
    cases seen : wireEvent (S.link id) e with
    | none =>
      have seen' : wireEvent (S.session id).link e = none := seen
      simp only [System.machine, family, session, seen, seen']
      refine ⟨same, ?_, rfl⟩
      apply session_put
      rw [proceed_wire _ _ _ _ fun _ => rfl, Function.update_eq_self]
    | some we =>
      have seen' : wireEvent (S.session id).link e = some we := seen
      have moved := components.moves S.driver (id, we) same
      have emitted := components.emits S.driver (id, we) same
      simp only [System.machine, family, session, seen, seen']
      refine ⟨components.preserved S.driver (id, we) same, ?_, rfl⟩
      have stepped : ((Driver.machine.step S.driver (id, we)).1.view id,
          atIndex id (Driver.machine.step S.driver (id, we)).2) =
            (wire proxyAddress).step (S.session id).wire we := by
        rw [moved, emitted]
        simp only [family, Function.update_self, atIndex_map_self]
        rfl
      rw [stepped]
      apply session_put
      have unseen : wireEvent (S.session id).link e = none →
          ((wire proxyAddress).step (S.session id).wire we).1 = (S.session id).wire := by
        intro none
        rw [seen'] at none
        cases none
      rw [proceed_wire _ _ _ _ unseen]
      exact moved
  exact ⟨fun S e same => (step S e same).1, fun S e same => (step S e same).2.1,
    fun S e same => (step S e same).2.2⟩

end System

section EndToEnd
variable {policy : Policy} {S : System} {id : EndpointId} {info : ConnInfo}
  {before after : List (EndpointId × Event)}

/-- The connection after a run in which it was requested. -/
def connectionAfter (policy : Policy) (S : System) (id : EndpointId) (info : ConnInfo)
    (before after : List (EndpointId × Event)) : Session :=
  ((System.machine policy).run S (before ++ (id, .connect info) :: after)).session id

/-- An IPv4 connection that goes through the proxy, and is still there. -/
structure Redirected (S : System) (id : EndpointId) (info : ConnInfo)
    (after : List (EndpointId × Event)) : Prop where
  ipv4 : info.remoteAddress.saFamily ≠ afInet6
  redirected : isProxyAddress S.driver.handler.proxyAddress info.remoteAddress = false
  within : ∀ e ∈ atIndex id after, e.within = true

theorem account_after (run : Redirected S id info after) :
    Account policy info.remoteAddress (connectionAfter policy S id info before after) := by
  have components := system_components policy S.driver.handler.proxyAddress
  rw [connectionAfter, components.run rfl id, atIndex_append, atIndex_cons_self, Machine.run_append]
  exact account_run run.ipv4 run.redirected run.within

/-- Where the bytes of both directions are, when the server has opened a connection: it is one
to the address that the application asked for. -/
structure Streams (policy : Policy) (target : Address) (header : Bytes) (s : Session) : Prop where
  header : header = [socks4, s4cConnect] ++ target.sinPort ++ target.sinAddr
  writes : 0 < s.near.writes
  up : s.far.forwarded ++ s.link.upward =
    (List.replicate (s.near.writes - 1) (request target)).flatten ++
      if s.near.first = none then []
      else counted s.near.held (toInt32 s.near.held.length) ++ s.near.later
  down : s.near.first.getD [] ++ s.near.received ++ s.link.downward =
    policy.reply true ++ s.far.answered

theorem Account.streams {target : Address} {s : Session} (account : Account policy target s)
    {header : Bytes} (relaying : s.link.server = .relaying header) :
    Streams policy target header s := by
  have stream := account.stream
  cases account.reads with
  | reading server | refused server =>
    rw [relaying] at server
    cases server
  | relaying server written posted =>
    rw [server] at relaying stream
    obtain rfl := Server.relaying.inj relaying
    obtain ⟨k, writes⟩ : ∃ k, s.near.writes = k + 1 := ⟨s.near.writes - 1, by omega⟩
    refine ⟨?_, written, ?_, stream⟩
    · have eight : ([socks4, s4cConnect] ++ target.sinPort ++ target.sinAddr).length = 8 := by
        simp [Address.sinPort, Address.sinAddr]
      exact List.take_left' eight
    · rw [postedUp, writes, List.replicate_succ, List.flatten_cons, List.append_assoc,
        List.append_assoc] at posted
      rw [writes]
      exact List.append_cancel_left posted

/-- In every run of the system, what the destination has got, with the bytes on their way, is a
request for every write but one before the first chunk, and then what the handler has released;
what the application has got, with the bytes on their way, is the server's reply and what the
destination has sent, without the first chunk. -/
theorem streams_accounted (run : Redirected S id info after) {header : Bytes}
    (relaying : (connectionAfter policy S id info before after).link.server = .relaying header) :
    Streams policy info.remoteAddress header (connectionAfter policy S id info before after) :=
  (account_after run).streams relaying

/-- Nothing is under way, and the first chunk of the server's stream has come. -/
structure Settled (s : Session) (chunk : Bytes) : Prop where
  upward : s.link.upward = []
  downward : s.link.downward = []
  first : s.near.first = some chunk

/-- Both ends have each other's bytes. -/
def Transparent (s : Session) : Prop :=
  s.far.forwarded = s.near.written ∧ s.near.received = s.far.answered

theorem requests_nil {target : Address} {k : Nat} :
    (List.replicate k (request target)).flatten = [] ↔ k = 0 := by
  constructor
  · intro nil
    cases k with
    | zero => rfl
    | succ k =>
      rw [List.replicate_succ, List.flatten_cons] at nil
      have size := congrArg List.length (List.append_eq_nil_iff.mp nil).1
      rw [request_length] at size
      cases size
  · rintro rfl
    rfl

/-- When everything has arrived, both ends have each other's bytes if and only if the
application wrote once before the first chunk came, and that chunk was the server's reply and
no more. -/
theorem transparent_iff (run : Redirected S id info after) {header chunk : Bytes}
    (relaying : (connectionAfter policy S id info before after).link.server = .relaying header)
    (settled : Settled (connectionAfter policy S id info before after) chunk)
    (fits : (connectionAfter policy S id info before after).near.held.length < intLimit) :
    Transparent (connectionAfter policy S id info before after) ↔
      (connectionAfter policy S id info before after).near.writes = 1 ∧
        chunk.length = sizeofSocks4Response := by
  obtain ⟨_, written, up, down⟩ := (account_after run).streams relaying
  generalize connectionAfter policy S id info before after = s at *
  obtain ⟨upward, downward, first⟩ := settled
  rw [upward, first, if_neg (by simp), (counted_toInt32_iff _).mpr fits, List.append_nil] at up
  rw [downward, first, Option.getD_some, List.append_nil] at down
  have eight : (policy.reply true).length = sizeofSocks4Response := by
    simp [Policy.reply, policy.size, sizeofSocks4Response]
  have forwards : s.far.forwarded = s.near.written ↔ s.near.writes = 1 := by
    rw [up, Near.written, List.append_left_eq_self, requests_nil]
    omega
  have receives : s.near.received = s.far.answered ↔ chunk.length = sizeofSocks4Response := by
    constructor
    · intro same
      rw [same] at down
      rw [List.append_cancel_right down, eight]
    · intro size
      exact (List.append_inj down (size.trans eight.symm)).2
  rw [Transparent, forwards, receives]

/-- The server has answered, and the handler holds nothing back any more. -/
structure Opened (s : Session) : Prop where
  answered : ∀ buffer, s.link.server ≠ .reading buffer
  first : s.near.first ≠ none
  gone : s.wire.entry = none

/-- A connection is never stuck: when nothing is under way and the application has written,
the server has answered and the handler has released what it held. -/
theorem never_stuck (run : Redirected S id info after)
    (written : 0 < (connectionAfter policy S id info before after).near.writes)
    (upward : (connectionAfter policy S id info before after).link.upward = [])
    (downward : (connectionAfter policy S id info before after).link.downward = []) :
    Opened (connectionAfter policy S id info before after) := by
  have account := @account_after policy S id info before after run
  generalize connectionAfter policy S id info before after = s at *
  have answered : ∀ buffer, s.link.server ≠ .reading buffer := by
    intro buffer server
    have requests := account.unanswered server
    cases account.reads with
    | reading server' incomplete posted =>
      obtain rfl := Server.reading.inj (server'.symm.trans server)
      obtain ⟨k, writes⟩ : ∃ k, s.near.writes = k + 1 := ⟨s.near.writes - 1, by omega⟩
      rw [upward, List.append_nil, requests, writes, List.replicate_succ, List.flatten_cons]
        at posted
      rw [posted, frame_request] at incomplete
      cases incomplete
    | relaying server' | refused server' =>
      rw [server] at server'
      cases server'
  have stream := account.stream
  rw [downward, List.append_nil] at stream
  cases account.holds with
  | waiting first here received =>
    rw [first, received] at stream
    cases server : s.link.server with
    | reading buffer => exact absurd server (answered buffer)
    | relaying | refused =>
      rw [server] at stream
      simp [sentDown, Policy.reply] at stream
  | released first nonempty gone => exact ⟨answered, by simp [first], gone⟩

/-- A server that grants everything. -/
def openPolicy : Policy := ⟨fun _ => true, List.replicate 6 0, rfl⟩

/-- No connection has been requested. -/
def quiet : System where
  driver := .initial localProxy
  near := fun _ => ⟨0, [], none, [], []⟩
  link := fun _ => ⟨[], .reading [], []⟩
  far := fun _ => ⟨[], []⟩

/-- One write, the reply by itself, and a byte of the destination. -/
def exchange : List (EndpointId × Event) :=
  [(7, .write [0x47]), (7, .read 9), (7, .arrive 7), (7, .read 1), (7, .answer [0x48]),
    (7, .arrive 0)]

theorem exchange_redirected : Redirected quiet 7 webRequest exchange :=
  ⟨by decide, by decide, by decide⟩

theorem exchange_streams : Streams openPolicy webRequest.remoteAddress
    ((request webRequest.remoteAddress).take 8)
    (connectionAfter openPolicy quiet 7 webRequest [] exchange) :=
  streams_accounted exchange_redirected rfl

theorem exchange_transparent :
    Transparent (connectionAfter openPolicy quiet 7 webRequest [] exchange) :=
  (transparent_iff exchange_redirected rfl
    (show Settled _ ([0, s4rcSuccess] ++ List.replicate 6 0) from ⟨rfl, rfl, rfl⟩)
    (by decide)).mpr ⟨rfl, rfl⟩

theorem exchange_opened : Opened (connectionAfter openPolicy quiet 7 webRequest [] exchange) :=
  never_stuck exchange_redirected (by decide) rfl rfl

end EndToEnd

end TcpSession
