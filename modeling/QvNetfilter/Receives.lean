import QvNetfilter.HandshakeState

/-!
# One receive for each socket

A connect is followed by one receive on the control socket, which is issued again when it
completes; the first datagram that is sent starts the receive on the relay socket. An endpoint
has no more of either than connections were created for it. The handlers find a connection by
the endpoint's id alone, so a late completion may start a receive on a later connection of the
endpoint; the bound is on all of them together.
-/

namespace Receives

open Memory Socks Mealy UdpProxy UdpHistory Ownership ControlChannel Links LinkSteps HandshakeState

section Steps
variable {config : Config} {id : EndpointId} {l l' : Link} {pd : ProxyData}

/-- The receive on the relay socket that is still to be started. -/
def unstarted : Option ProxyData → Nat
  | some pd => if pd.udpRecvStarted then 0 else 1
  | none => 0

/-- The receives on the relay socket, with the one to come. -/
def relaying (l : Link) : Nat := l.relays.length + unstarted l.entry

/-- No more connections are being served than were created. -/
structure Bounded (l : Link) : Prop where
  controls : l.connects.length + l.controls.length ≤ l.notes.count .created
  relays : relaying l ≤ l.notes.count .created

theorem unstarted_le (entry : Option ProxyData) : unstarted entry ≤ 1 := by
  cases entry with
  | none => exact Nat.zero_le 1
  | some pd =>
    simp only [unstarted]
    split <;> omega

theorem relaying_attempt {bytes : Bytes} {sent : Bool} (attempt : Attempt id pd bytes l sent l')
    (entry : l.entry = some pd) : relaying l' ≤ relaying l := by
  cases attempt with
  | refused | sent => exact Nat.le_refl _
  | first notStarted op accepted =>
    have to_come : unstarted l.entry = 1 := by simp [unstarted, entry, notStarted]
    cases accepted <;> simp [relaying, unstarted, Link.receiveFrom, Link.setEntry, Link.note] at *
    omega

theorem relaying_flushed (flushed : Flushed id l l') : relaying l' ≤ relaying l := by
  induction flushed with
  | done => exact Nat.le_refl _
  | @next l l₁ l₂ pd pd₁ p rest sent entry queue attempt left flushed ih =>
    have first := relaying_attempt attempt entry
    have same : relaying (l₁.setEntry (some { pd₁ with udpSendPackets := rest })) = relaying l₁ := by
      simp [relaying, unstarted, Link.setEntry, left]
    omega

/-- The relay side creates no connection. -/
theorem RelayOnly.created (only : RelayOnly l l') :
    l'.notes.count .created = l.notes.count .created := by
  obtain ⟨news, added, relays⟩ := only.notes
  have none : news.count .created = 0 := by
    apply List.count_eq_zero.mpr
    intro present
    cases relays _ present
  rw [added, List.count_append, none, Nat.add_zero]

theorem Bounded.fewer (bounded : Bounded l)
    (controls : l'.connects.length + l'.controls.length ≤ l.connects.length + l.controls.length)
    (relays : relaying l' ≤ relaying l)
    (created : l.notes.count .created ≤ l'.notes.count .created) : Bounded l' :=
  ⟨(controls.trans bounded.controls).trans created, (relays.trans bounded.relays).trans created⟩

theorem relaying_disarm (op : Operation) : relaying (l.disarm op) ≤ relaying l :=
  Nat.add_le_add_right (List.length_erase_le) _

/-- The switch sends and flushes, and starts no receive on the control socket. -/
theorem switch_counts {reply : Bytes} (switch : Switch config id reply l l') :
    l'.connects = l.connects ∧ l'.controls = l.controls ∧ relaying l' ≤ relaying l ∧
      l'.notes.count .created = l.notes.count .created := by
  cases switch with
  | silent => exact ⟨rfl, rfl, Nat.le_refl _, rfl⟩
  | @answered pd message next entry answer accepted =>
    refine ⟨rfl, rfl, ?_, by simp [Link.answer]⟩
    cases accepted <;> simp [relaying, unstarted, Link.answer, entry]
  | @connected pd buffer addr l' entry waiting relay flushed =>
    have only := flushed.relayOnly
    have fewer := relaying_flushed flushed
    refine ⟨only.connects, only.controls, ?_, (RelayOnly.created only).trans rfl⟩
    simpa [relaying, unstarted, Link.setEntry, entry] using fewer

theorem Bounded.step {e : Event} (bounded : Bounded l)
    (step : LinkStep config id l e l') : Bounded l' := by
  have removed : ∀ l : Link, relaying (l.setEntry none) ≤ relaying l :=
    fun l => Nat.add_le_add_left (Nat.zero_le _) l.relays.length
  cases step with
  | elsewhere | unarmed | notOpened | unknown => exact bounded
  | notConnected =>
    refine bounded.fewer ?_ (removed (l.note .created)) ?_
    · exact Nat.le_refl _
    · simp [Link.note, Link.setEntry]
  | created tcpSocket udpSocket op =>
    have one := unstarted_le (some (ProxyData.new config tcpSocket udpSocket))
    obtain ⟨controls, relays⟩ := bounded
    constructor
    · simp [Link.note, Link.setEntry, Link.arm]
      omega
    · simp [relaying, Link.note, Link.setEntry, Link.arm] at *
      omega
  | deleted =>
    refine bounded.fewer ?_ (removed l) ?_
    · exact Nat.le_refl _
    · exact Nat.le_refl _
  | @queued buf addr len pd entry waiting =>
    obtain ⟨packets, same⟩ := enqueue_packets pd buf addr len
    refine bounded.fewer ?_ ?_ ?_
    · exact Nat.le_refl _
    · simp [relaying, unstarted, Link.setEntry, same, entry]
    · exact Nat.le_refl _
  | attempted entry established attempt =>
    have only := attempt.relayOnly
    refine bounded.fewer ?_ (relaying_attempt attempt entry) (RelayOnly.created only).ge
    rw [only.connects, only.controls]
  | @connectFailed op data error armed =>
    refine bounded.fewer ?_ ((removed (l.disarm op)).trans (relaying_disarm op)) ?_
    · exact Nat.add_le_add List.length_erase_le List.length_erase_le
    · exact Nat.le_refl _
  | @connectIgnored op data armed entry =>
    refine bounded.fewer ?_ (relaying_disarm op) ?_
    · exact Nat.add_le_add List.length_erase_le List.length_erase_le
    · exact Nat.le_refl _
  | @greeted op data pd armed entry sent accepted op' starts =>
    have one := List.length_erase_add_one armed
    have fewer : (l.controls.erase op).length ≤ l.controls.length := List.length_erase_le
    refine bounded.fewer ?_ ?_ ?_
    · cases accepted <;> simp [Link.receive, Link.answer, Link.disarm] <;> omega
    · have disarmed := @relaying_disarm l op
      cases sent <;> simpa [relaying, unstarted, Link.receive, Link.answer, Link.disarm, entry]
        using disarmed
    · simp [Link.receive, Link.answer, Link.disarm]
  | @controlEnded op data error armed =>
    refine bounded.fewer ?_ (relaying_disarm op) ?_
    · exact Nat.add_le_add List.length_erase_le List.length_erase_le
    · simp [Link.note, Link.disarm]
  | @controlData op data reply error l₁ armed nonempty switch accepted =>
    have one := List.length_erase_add_one armed
    have fewer : (l.connects.erase op).length ≤ l.connects.length := List.length_erase_le
    obtain ⟨connects, controls, relays, created⟩ := switch_counts switch
    refine bounded.fewer ?_ (relays.trans (relaying_disarm op)) ?_
    · cases accepted <;> simp [Link.receive, connects, controls, Link.note, Link.disarm] <;> omega
    · simp [Link.receive, created, Link.note, Link.disarm]
  | @relayEnded op data error armed =>
    refine bounded.fewer ?_ (relaying_disarm op) ?_
    · exact Nat.add_le_add List.length_erase_le List.length_erase_le
    · simp [Link.note, Link.disarm]
  | @relayData op data reply error armed nonempty accepted =>
    have one := List.length_erase_add_one armed
    refine bounded.fewer ?_ ?_ ?_
    · exact Nat.add_le_add List.length_erase_le List.length_erase_le
    · cases accepted <;> simp [relaying, Link.receiveFrom, Link.note, Link.disarm] <;> omega
    · simp [Link.receiveFrom, Link.note, Link.disarm]

end Steps

section Runs
variable (os : Os) (config : Config)

theorem bounded_run (evs : List Event) (id : EndpointId) :
    Bounded (linkOf os config evs id) := by
  induction evs using List.reverseRecOn with
  | nil => exact ⟨Nat.le_refl 0, Nat.le_refl 0⟩
  | append_singleton evs e ih =>
    rw [linkOf, Handshake.run_concat]
    exact ih.step (link_step os config (owned_run os config evs) e id)

/-- The connections that were created for an endpoint. -/
def connections (w : World) (id : EndpointId) : Nat := (w.history id).count .created

theorem count_created (w : World) (id : EndpointId) :
    (notes w id).count .created = connections w id := by
  rw [notes, view, connections]
  induction w.history id with
  | nil => rfl
  | cons a rest ih =>
    have first : (note a).toList.count .created = [a].count .created := by
      cases a with
      | call c accepted => cases c <;> rfl
      | _ => rfl
    have split : (a :: rest).filterMap note = (note a).toList ++ rest.filterMap note := by
      rw [List.filterMap_cons]
      cases note a <;> rfl
    rw [split, List.count_append, first, ih]
    exact List.count_append.symm

/-- In every run an endpoint has at most one outstanding connect or control receive, and at most
one outstanding receive on the relay socket, for each connection that was created for it. -/
theorem receives_bounded (evs : List Event) (id : EndpointId) :
    (armed ((machine os config).run World.initial evs) id .ovtConnect).length +
        (armed ((machine os config).run World.initial evs) id .ovtTcpReceive).length ≤
          connections ((machine os config).run World.initial evs) id ∧
      (armed ((machine os config).run World.initial evs) id .ovtUdpReceive).length ≤
        connections ((machine os config).run World.initial evs) id := by
  obtain ⟨controls, relays⟩ := bounded_run os config evs id
  rw [← count_created]
  exact ⟨controls, (Nat.le_add_right _ _).trans relays⟩

end Runs

end Receives
