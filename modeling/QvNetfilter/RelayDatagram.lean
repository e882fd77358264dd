import QvNetfilter.UdpHistory

/-!
# Datagrams from the relay

A datagram of the relay carries a SOCKS5 UDP header whose size depends on the
address type. `onUdpReceiveComplete` checks only that more than the four common
bytes arrived. The handler should be called exactly for a complete header, with
the header's address and everything behind the header.
-/

namespace RelayDatagram

open Memory Socks Mealy UdpProxy UdpHistory

section Header

/-- The size of the header that the address type announces. -/
def headerSize (received : Bytes) : Nat :=
  if byteAt received 3 = socks5AddrIpv4 then sizeofSocks5UdpRequestIpv4
  else sizeofSocks5UdpRequestIpv6

/-- A SOCKS5 UDP header with an IP address is there in full. -/
def CompleteHeader (received : Bytes) : Prop :=
  (byteAt received 3 = socks5AddrIpv4 ∨ byteAt received 3 = socks5AddrIpv6) ∧
    headerSize received ≤ received.length

/-- The `sockaddr` of the header's address and port. -/
def headerAddress (received : Bytes) : Bytes :=
  if byteAt received 3 = socks5AddrIpv4 then
    sockaddrIn (readBytes received 4 4) (readBytes received 8 2)
  else sockaddrIn6 (readBytes received 4 16) (readBytes received 20 2)

/-- The handler is called once for a complete header and not otherwise. It gets the
header's address and the received bytes behind the header, and nothing else. -/
structure RelayExact (received : Bytes) (calls : List Delivery) : Prop where
  called : calls ≠ [] ↔ CompleteHeader received
  once : calls.length ≤ 1
  address : ∀ d ∈ calls, d.remoteAddress = headerAddress received
  length : ∀ d ∈ calls, 0 ≤ d.len ∧ d.len = received.length - headerSize received
  payload : ∀ d ∈ calls, counted d.buf d.len = received.drop (headerSize received)

/-- More than the common part arrived, but less than the header it announces. -/
def TruncatedHeader (buffer : Bytes) (dwTransferred : Nat) : Prop :=
  sizeofSocks5UdpRequest < dwTransferred ∧
    (byteAt buffer 3 = socks5AddrIpv4 ∨ byteAt buffer 3 = socks5AddrIpv6) ∧
    dwTransferred < headerSize buffer

instance (received : Bytes) : Decidable (CompleteHeader received) :=
  inferInstanceAs (Decidable (_ ∧ _))

instance (buffer : Bytes) (dwTransferred : Nat) :
    Decidable (TruncatedHeader buffer dwTransferred) :=
  inferInstanceAs (Decidable (_ ∧ _ ∧ _))

theorem headerSize_pos (received : Bytes) :
    sizeofSocks5UdpRequest < headerSize received := by
  simp only [headerSize]
  split <;> decide

theorem headerSize_take {b : Bytes} {n : Nat} (h : sizeofSocks5UdpRequest < n) :
    headerSize (b.take n) = headerSize b := by
  have h3 : (3 : Nat) < n := Nat.lt_trans (by decide) h
  rw [headerSize, headerSize, byteAt_take h3]

theorem completeHeader_take {b : Bytes} {n : Nat} (fits : n ≤ b.length) :
    CompleteHeader (b.take n) ↔
      (byteAt b 3 = socks5AddrIpv4 ∨ byteAt b 3 = socks5AddrIpv6) ∧ headerSize b ≤ n := by
  have hlen : (b.take n).length = n := List.length_take_of_le fits
  by_cases common : sizeofSocks5UdpRequest < n
  · have h3 : (3 : Nat) < n := Nat.lt_trans (by decide) common
    rw [CompleteHeader, byteAt_take h3, headerSize_take common, hlen]
  · have hsize := headerSize_pos b
    have hsize' := headerSize_pos (b.take n)
    constructor
    · rintro ⟨_, h⟩
      omega
    · rintro ⟨_, h⟩
      omega

theorem counted_drop {b : Bytes} {n k : Nat} (hk : k ≤ n) :
    counted (b.drop k) ((n : Int) - k) = (b.take n).drop k := by
  have h : ((n : Int) - k).toNat = n - k := by omega
  rw [counted, h, List.drop_take]

/-- What `onUdpReceiveComplete` reads from a header that is there. -/
theorem relayedDatagram_complete {b : Bytes} {n : Nat}
    (known : byteAt b 3 = socks5AddrIpv4 ∨ byteAt b 3 = socks5AddrIpv6)
    (complete : headerSize b ≤ n) (limit : n ≤ packetSize) :
    relayedDatagram b n =
      some ⟨b.drop (headerSize b), (n : Int) - headerSize b, headerAddress (b.take n)⟩ := by
  have common : sizeofSocks5UdpRequest < n := Nat.lt_of_lt_of_le (headerSize_pos b) complete
  have h3 : (3 : Nat) < n := Nat.lt_trans (by decide) common
  have hlimit : n ≤ 65536 := limit
  have narrow : ∀ size : Nat, size ≤ n → toInt32 ((n : Int) - size) = (n : Int) - size :=
    fun size hsize => toInt32_of_nonneg (by omega) (by omega)
  by_cases ipv4 : byteAt b 3 = socks5AddrIpv4
  · have hsize : headerSize b = sizeofSocks5UdpRequestIpv4 := if_pos ipv4
    have size : sizeofSocks5UdpRequestIpv4 ≤ n := hsize ▸ complete
    have h10 : 10 ≤ n := size
    have haddress : headerAddress (b.take n) =
        sockaddrIn (readBytes b 4 4) (readBytes b 8 2) := by
      rw [headerAddress, byteAt_take h3, if_pos ipv4, readBytes_take (by omega),
        readBytes_take (by omega)]
    rw [relayedDatagram, if_pos common, if_pos ipv4, haddress, hsize, narrow _ size]
  · have ipv6 : byteAt b 3 = socks5AddrIpv6 := known.resolve_left ipv4
    have hsize : headerSize b = sizeofSocks5UdpRequestIpv6 := if_neg ipv4
    have size : sizeofSocks5UdpRequestIpv6 ≤ n := hsize ▸ complete
    have h22 : 22 ≤ n := size
    have haddress : headerAddress (b.take n) =
        sockaddrIn6 (readBytes b 4 16) (readBytes b 20 2) := by
      rw [headerAddress, byteAt_take h3, if_neg ipv4, readBytes_take (by omega),
        readBytes_take (by omega)]
    rw [relayedDatagram, if_pos common, if_neg ipv4, if_pos ipv6, haddress, hsize, narrow _ size]

/-- Which datagrams reach the handler at all. -/
theorem relayedDatagram_none_iff (b : Bytes) (n : Nat) :
    relayedDatagram b n = none ↔
      ¬ (sizeofSocks5UdpRequest < n ∧
        (byteAt b 3 = socks5AddrIpv4 ∨ byteAt b 3 = socks5AddrIpv6)) := by
  by_cases common : sizeofSocks5UdpRequest < n
  · by_cases ipv4 : byteAt b 3 = socks5AddrIpv4
    · simp [relayedDatagram, common, ipv4]
    · by_cases ipv6 : byteAt b 3 = socks5AddrIpv6
      · have other : socks5AddrIpv6 ≠ socks5AddrIpv4 := by decide
        simp [relayedDatagram, common, ipv6, other]
      · simp [relayedDatagram, ipv4, ipv6]
  · simp [relayedDatagram, common]

end Header

section Handler

/-- The calls of the handler. -/
def delivery : Action → Option Delivery
  | .onUdpReceiveComplete d => some d
  | _ => none

def deliveries (w : World) (id : EndpointId) : List Delivery := view delivery w id

/-- `onUdpReceiveComplete` calls the handler for its endpoint as `relayedDatagram` says. -/
theorem onUdpReceiveComplete_deliveries (os : Os) (w : World) (socket : Socket)
    {dwTransferred : Nat} (nonzero : dwTransferred ≠ 0) (pov : Pov) (ov : OvData) :
    deliveries (onUdpReceiveComplete os w socket dwTransferred pov ov) ov.id =
      deliveries w ov.id ++ (relayedDatagram ov.buffer dwTransferred).toList := by
  rw [onUdpReceiveComplete, if_neg nonzero]
  refine (view_rearmUdpReceive os _ socket ov.id pov ov (fun _ => rfl) (fun _ => rfl)
    ov.id).trans ?_
  cases relayedDatagram ov.buffer dwTransferred with
  | none => exact (List.append_nil _).symm
  | some d =>
    have recorded : view delivery (w.record ov.id (.onUdpReceiveComplete d)) ov.id = _ :=
      view_record w ov.id ov.id (.onUdpReceiveComplete d)
    rwa [shown_self] at recorded

/-- The calls of the handler that one completion causes. -/
def newDeliveries (os : Os) (w : World) (socket : Socket) (dwTransferred : Nat) (pov : Pov)
    (id : EndpointId) (buffer : Bytes) : List Delivery :=
  (deliveries (onUdpReceiveComplete os w socket dwTransferred pov ⟨id, .ovtUdpReceive, buffer⟩)
    id).drop (deliveries w id).length

variable (os : Os) (w : World) (socket : Socket) (pov : Pov) (id : EndpointId)

theorem newDeliveries_eq {buffer : Bytes} {dwTransferred : Nat} (nonzero : 0 < dwTransferred) :
    newDeliveries os w socket dwTransferred pov id buffer =
      (relayedDatagram buffer dwTransferred).toList := by
  have hcalls := onUdpReceiveComplete_deliveries os w socket (Nat.ne_of_gt nonzero) pov
    ⟨id, .ovtUdpReceive, buffer⟩
  rw [newDeliveries, hcalls, List.drop_left]

/-- A truncated header reaches the handler all the same. -/
theorem not_exact_of_truncated {buffer : Bytes} {dwTransferred : Nat}
    (fits : dwTransferred ≤ buffer.length) (truncated : TruncatedHeader buffer dwTransferred) :
    ¬ RelayExact (buffer.take dwTransferred)
      (newDeliveries os w socket dwTransferred pov id buffer) := by
  obtain ⟨common, known, short⟩ := truncated
  intro exact
  have present : relayedDatagram buffer dwTransferred ≠ none :=
    fun h => (relayedDatagram_none_iff _ _).mp h ⟨common, known⟩
  rw [newDeliveries_eq os w socket pov id (by omega)] at exact
  have called := exact.called.mp (by simpa using present)
  exact absurd ((completeHeader_take fits).mp called).2 (by omega)

/-- The handler is called exactly as the received bytes demand, whatever else the
buffer holds, exactly when these are not a truncated header. -/
theorem relay_exact_iff (buffer : Bytes) (dwTransferred : Nat) (nonzero : 0 < dwTransferred)
    (fits : dwTransferred ≤ buffer.length) (limit : dwTransferred ≤ packetSize) :
    RelayExact (buffer.take dwTransferred)
        (newDeliveries os w socket dwTransferred pov id buffer) ↔
      ¬ TruncatedHeader buffer dwTransferred := by
  have hlen : (buffer.take dwTransferred).length = dwTransferred := List.length_take_of_le fits
  have hcomplete := completeHeader_take fits
  constructor
  · exact fun exact truncated => not_exact_of_truncated os w socket pov id fits truncated exact
  · intro whole
    rw [newDeliveries_eq os w socket pov id nonzero]
    by_cases complete : CompleteHeader (buffer.take dwTransferred)
    · obtain ⟨known, size⟩ := hcomplete.mp complete
      have common : sizeofSocks5UdpRequest < dwTransferred :=
        Nat.lt_of_lt_of_le (headerSize_pos buffer) size
      have hsize := headerSize_take (b := buffer) common
      have hdatagram := relayedDatagram_complete known size limit
      have hpayload := counted_drop (b := buffer) size
      rw [hdatagram]
      refine ⟨iff_of_true (by simp) complete, by simp, ?_, ?_, ?_⟩
      · simp
      · simp [hlen, hsize, size]
      · simpa [hsize] using hpayload
    · have hnone : relayedDatagram buffer dwTransferred = none := by
        rw [relayedDatagram_none_iff]
        rintro ⟨common, known⟩
        by_cases size : headerSize buffer ≤ dwTransferred
        · exact complete (hcomplete.mpr ⟨known, size⟩)
        · exact whole ⟨common, known, by omega⟩
      rw [hnone]
      exact ⟨iff_of_false (by simp) complete, by simp, by simp, by simp, by simp⟩

/-- A datagram "hi" from 8.8.8.8:53. -/
def dnsDatagram : Bytes := [0, 0, 0, socks5AddrIpv4, 8, 8, 8, 8, 0, 53, 0x68, 0x69]

theorem relay_exact_dns :
    RelayExact (dnsDatagram.take 12)
        (newDeliveries acceptingOs World.initial 4 12 (7, 0) 7 dnsDatagram) ↔
      ¬ TruncatedHeader dnsDatagram 12 :=
  relay_exact_iff acceptingOs World.initial 4 (7, 0) 7 dnsDatagram 12 (by decide) (by decide)
    (by decide)

/-- Five bytes of an IPv4 header in a fresh buffer: the handler is called. -/
theorem truncated_header_delivered :
    ¬ RelayExact (([0, 0, 0, socks5AddrIpv4, 9] ++ List.replicate 65531 0).take 5)
      (newDeliveries acceptingOs World.initial 4 5 (7, 0) 7
        ([0, 0, 0, socks5AddrIpv4, 9] ++ List.replicate 65531 0)) := by
  refine not_exact_of_truncated acceptingOs World.initial 4 (7, 0) 7 ?_ ?_
  · rw [List.length_append]
    exact Nat.le_add_right_of_le (by decide)
  · exact ⟨by decide, Or.inl rfl, by decide⟩

end Handler

end RelayDatagram
