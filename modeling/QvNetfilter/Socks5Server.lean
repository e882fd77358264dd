import QvNetfilter.Dialogue
import QvNetfilter.UserPassword

/-!
# The other end of a control connection

A SOCKS5 server with the messages of `SOCKS.h`, for the results about both ends of the
handshake. It is no part of the repository: a server selects a method, checks a user name
and password, and opens a relay, and what it decides is a parameter.
-/

namespace Socks5Server

open Memory Socks UserPassword Dialogue

/-- No acceptable method. -/
def noMethod : UInt8 := 0xff

/-- What a server decides. It selects a method that was offered, and its relay has an
address of one of the two IP families. -/
structure Policy where
  select : Bytes → UInt8
  admits : Bytes → Bytes → Bool
  type : UInt8
  bound : Bytes
  offered : ∀ methods, select methods ∈ methods ∨ select methods = noMethod
  size : type = socks5AddrIpv4 ∧ bound.length = 6 ∨ type = socks5AddrIpv6 ∧ bound.length = 18

inductive Phase where
  | greeting
  | credentials
  | request
  | associated
  | refused
deriving DecidableEq

namespace Phase

def rank : Phase → Nat
  | greeting => 3
  | credentials => 2
  | request => 1
  | associated => 0
  | refused => 0

/-- What the client has to send once a method was selected. -/
def afterMethod (method : UInt8) : Phase :=
  if method = s5amNone then .request
  else if method = s5amUnpw then .credentials
  else .refused

end Phase

section Reading

inductive Message where
  | greeting (methods : Bytes)
  | credentials (name password : Bytes)
  | request (command : UInt8)
  | malformed
deriving DecidableEq

/-- What follows the first bytes of the stream. -/
def skip (size : Nat) (s : Bytes) : Option Bytes :=
  if size ≤ s.length then some (s.drop size) else none

/-- What follows the address and the port of a request. -/
def skipTarget (type : UInt8) (s : Bytes) : Option Bytes :=
  if type = socks5AddrIpv6 then skip 18 s
  else if type = socks5AddrDomain then (readField s).bind fun name => skip 2 name.2
  else skip 6 s

def frame : Phase → Bytes → Option (Message × Bytes)
  | .greeting, version :: rest =>
    if version ≠ socks5 then some (.malformed, rest)
    else (readField rest).map fun methods => (.greeting methods.1, methods.2)
  | .credentials, version :: rest =>
    if version ≠ 1 then some (.malformed, rest)
    else (readField rest).bind fun name => (readField name.2).map fun password =>
      (.credentials name.1 password.1, password.2)
  | .request, version :: command :: _ :: type :: rest =>
    if version ≠ socks5 then some (.malformed, rest)
    else (skipTarget type rest).map fun rest => (.request command, rest)
  | _, _ => none

variable (policy : Policy)

/-- The reply that opens the relay. -/
def granted : Bytes := [socks5, 0, 0, policy.type] ++ policy.bound

/-- A reply with an error code and a zero address. -/
def denied (code : UInt8) : Bytes := [socks5, code, 0, socks5AddrIpv4, 0, 0, 0, 0, 0, 0]

def reply : Phase → Message → Bytes × Phase
  | .greeting, .greeting methods =>
    ([socks5, policy.select methods], .afterMethod (policy.select methods))
  | .greeting, _ => ([socks5, noMethod], .refused)
  | .credentials, .credentials name password =>
    if policy.admits name password then ([1, 0], .request) else ([1, 1], .refused)
  | .credentials, _ => ([1, 1], .refused)
  | _, .request command =>
    if command = s5cUdpAssociate then (granted policy, .associated) else (denied 7, .refused)
  | _, _ => (denied 1, .refused)

end Reading

section Stream

theorem readField_stable {s field rest : Bytes} (found : readField s = some (field, rest))
    (more : Bytes) : readField (s ++ more) = some (field, rest ++ more) := by
  cases s with
  | nil => cases found
  | cons size back =>
    simp only [readField, List.cons_append] at found ⊢
    split at found
    · rename_i fits
      obtain ⟨rfl, rfl⟩ := Prod.mk.inj (Option.some_inj.mp found)
      have fits' : size.toNat ≤ (back ++ more).length := by
        rw [List.length_append]
        omega
      rw [if_pos fits', List.take_append_of_le_length fits, List.drop_append_of_le_length fits]
    · cases found

theorem skip_stable {size : Nat} {s rest : Bytes} (found : skip size s = some rest)
    (more : Bytes) : skip size (s ++ more) = some (rest ++ more) := by
  simp only [skip] at found ⊢
  split at found
  · rename_i fits
    obtain rfl := Option.some_inj.mp found
    have fits' : size ≤ (s ++ more).length := by
      rw [List.length_append]
      omega
    rw [if_pos fits', List.drop_append_of_le_length fits]
  · exact absurd found nofun

theorem skipTarget_stable {type : UInt8} {s rest : Bytes} (found : skipTarget type s = some rest)
    (more : Bytes) : skipTarget type (s ++ more) = some (rest ++ more) := by
  unfold skipTarget at found ⊢
  by_cases ipv6 : type = socks5AddrIpv6
  · rw [if_pos ipv6] at found ⊢
    exact skip_stable found more
  · rw [if_neg ipv6] at found ⊢
    by_cases domain : type = socks5AddrDomain
    · rw [if_pos domain] at found ⊢
      obtain ⟨name, hname, found⟩ := Option.bind_eq_some_iff.mp found
      rw [readField_stable hname more]
      exact skip_stable found more
    · rw [if_neg domain] at found ⊢
      exact skip_stable found more

theorem frame_stable {phase : Phase} {s rest : Bytes} {m : Message}
    (found : frame phase s = some (m, rest)) (more : Bytes) :
    frame phase (s ++ more) = some (m, rest ++ more) := by
  cases phase with
  | associated | refused => exact absurd found nofun
  | greeting =>
    cases s with
    | nil => exact absurd found nofun
    | cons version back =>
      simp only [frame, List.cons_append] at found ⊢
      by_cases wrong : version ≠ socks5
      · rw [if_pos wrong] at found ⊢
        obtain ⟨rfl, rfl⟩ := Prod.mk.inj (Option.some_inj.mp found)
        rfl
      · rw [if_neg wrong] at found ⊢
        obtain ⟨methods, hmethods, same⟩ := Option.map_eq_some_iff.mp found
        obtain ⟨rfl, rfl⟩ := Prod.mk.inj same
        rw [readField_stable hmethods more]
        rfl
  | credentials =>
    cases s with
    | nil => exact absurd found nofun
    | cons version back =>
      simp only [frame, List.cons_append] at found ⊢
      by_cases wrong : version ≠ 1
      · rw [if_pos wrong] at found ⊢
        obtain ⟨rfl, rfl⟩ := Prod.mk.inj (Option.some_inj.mp found)
        rfl
      · rw [if_neg wrong] at found ⊢
        obtain ⟨name, hname, found⟩ := Option.bind_eq_some_iff.mp found
        obtain ⟨password, hpassword, same⟩ := Option.map_eq_some_iff.mp found
        obtain ⟨rfl, rfl⟩ := Prod.mk.inj same
        rw [readField_stable hname more, Option.bind_some, readField_stable hpassword more]
        rfl
  | request =>
    rcases s with _ | ⟨version, _ | ⟨command, _ | ⟨reserved, _ | ⟨type, back⟩⟩⟩⟩
    · exact absurd found nofun
    · exact absurd found nofun
    · exact absurd found nofun
    · exact absurd found nofun
    · simp only [frame, List.cons_append] at found ⊢
      by_cases wrong : version ≠ socks5
      · rw [if_pos wrong] at found ⊢
        obtain ⟨rfl, rfl⟩ := Prod.mk.inj (Option.some_inj.mp found)
        rfl
      · rw [if_neg wrong] at found ⊢
        obtain ⟨target, htarget, same⟩ := Option.map_eq_some_iff.mp found
        obtain ⟨rfl, rfl⟩ := Prod.mk.inj same
        rw [skipTarget_stable htarget more]
        rfl

variable (policy : Policy)

theorem rank_afterMethod (method : UInt8) : (Phase.afterMethod method).rank < 3 := by
  unfold Phase.afterMethod
  split
  · decide
  · split <;> decide

theorem reply_advances {phase : Phase} {s rest : Bytes} {m : Message}
    (found : frame phase s = some (m, rest)) :
    (reply policy phase m).2.rank < phase.rank := by
  cases phase with
  | associated | refused => exact absurd found nofun
  | greeting =>
    cases m with
    | greeting methods => exact rank_afterMethod _
    | credentials | request | malformed => exact (by decide : 0 < 3)
  | credentials =>
    cases m with
    | credentials name password =>
      simp only [reply]
      split <;> decide
    | greeting | request | malformed => exact (by decide : 0 < 2)
  | request =>
    cases m with
    | request command =>
      simp only [reply]
      split
      · exact Nat.zero_lt_one
      · exact Nat.zero_lt_one
    | greeting | credentials | malformed => exact Nat.zero_lt_one

/-- The server as a party that reads its messages off the stream. -/
def server : Party UInt8 Phase Message where
  frame := frame
  reply := reply policy
  rank := Phase.rank
  advances := reply_advances policy
  stable := frame_stable

/-- The replies to what the client has sent, and the server's phase. -/
abbrev serve (s : Bytes) : List Bytes × Phase := (server policy).serve .greeting s

end Stream

section Outcome
variable (policy : Policy)

theorem serve_closed {phase : Phase} (closed : phase = .associated ∨ phase = .refused)
    (s : Bytes) : (server policy).serve phase s = ([], phase) := by
  apply Party.serve_waits
  rcases closed with rfl | rfl
  · rfl
  · rfl

/-- The only reply of success with an address is the one that opens the relay. -/
theorem granted_reply {phase : Phase} {s r : Bytes} (replied : r ∈ ((server policy).serve phase s).1)
    (long : 5 ≤ r.length) (success : byteAt r 1 = 0) :
    r = granted policy ∧ ((server policy).serve phase s).2 = .associated := by
  induction phase, s using (server policy).serve_induction with
  | waits phase s none =>
    rw [Party.serve_waits none] at replied
    exact absurd replied List.not_mem_nil
  | reads phase s m rest found ih =>
    have reads := Party.serve_reads found
    rw [reads] at replied ⊢
    rcases List.mem_cons.mp replied with first | later
    · have short : ∀ x y : UInt8, r ≠ [x, y] := by
        rintro x y rfl
        simp at long
      have error : ∀ code : UInt8, code ≠ 0 → r ≠ denied code := by
        rintro code nonzero rfl
        exact nonzero success
      have opened : ∀ command, r = (reply policy .request (.request command)).1 →
          command = s5cUdpAssociate ∧ r = granted policy := by
        intro command same
        simp only [reply] at same
        split at same
        · rename_i associate
          exact ⟨associate, same⟩
        · exact absurd same (error 7 (by decide))
      cases phase with
      | associated | refused => exact absurd found nofun
      | greeting =>
        cases m with
        | greeting methods => exact absurd first (short _ _)
        | credentials | request | malformed => exact absurd first (short _ _)
      | credentials =>
        cases m with
        | credentials name password =>
          exfalso
          have first' : r = (reply policy .credentials (.credentials name password)).1 := first
          simp only [reply] at first'
          split at first'
          · exact short _ _ first'
          · exact short _ _ first'
        | greeting | request | malformed => exact absurd first (short _ _)
      | request =>
        cases m with
        | greeting | credentials | malformed => exact absurd first (error 1 (by decide))
        | request command =>
          obtain ⟨rfl, same⟩ := opened command first
          exact ⟨same, congrArg Prod.snd (serve_closed policy (Or.inl rfl) rest)⟩
    · exact ih later

/-- A relay is opened only for a client that has offered a method which needs no more, or
has given a name and a password that the server admits. -/
theorem associated_exchange {s : Bytes} (associated : (serve policy s).2 = .associated) :
    ∃ methods rest, frame .greeting s = some (.greeting methods, rest) ∧
      (policy.select methods = s5amNone ∨ policy.select methods = s5amUnpw ∧
        ∃ name password rest', frame .credentials rest = some (.credentials name password, rest') ∧
          policy.admits name password = true) := by
  have refuses : ∀ {phase : Phase} {s rest : Bytes} {m : Message},
      frame phase s = some (m, rest) → (reply policy phase m).2 = .refused →
      ((server policy).serve phase s).2 = .refused := by
    intro phase s rest m found closed
    have reads : (server policy).serve phase s = _ := Party.serve_reads found
    have refused : (reply policy phase m).2 = .associated ∨ (reply policy phase m).2 = .refused :=
      Or.inr closed
    rw [reads]
    exact (congrArg Prod.snd (serve_closed policy refused rest)).trans closed
  have never : ∀ {phase : Phase}, phase = .refused → phase ≠ .associated := by
    rintro _ rfl
    decide
  cases found : frame .greeting s with
  | none =>
    have waits : serve policy s = ([], .greeting) := Party.serve_waits found
    rw [waits] at associated
    exact absurd associated nofun
  | some next =>
    obtain ⟨m, rest⟩ := next
    cases m with
    | credentials | request | malformed =>
      exact absurd associated (never (refuses found rfl))
    | greeting methods =>
      refine ⟨methods, rest, rfl, ?_⟩
      by_cases none : policy.select methods = s5amNone
      · exact Or.inl none
      · right
        have reads : serve policy s = _ := Party.serve_reads found
        have later : ((server policy).serve (.afterMethod (policy.select methods)) rest).2 =
            .associated := by
          rw [reads] at associated
          exact associated
        by_cases selected : policy.select methods = s5amUnpw
        · refine ⟨selected, ?_⟩
          have phase : Phase.afterMethod (policy.select methods) = .credentials := by
            rw [selected]
            rfl
          rw [phase] at later
          cases found' : frame .credentials rest with
          | none =>
            have waits : (server policy).serve .credentials rest = ([], .credentials) :=
              Party.serve_waits found'
            rw [waits] at later
            exact absurd later nofun
          | some next =>
            obtain ⟨m, rest'⟩ := next
            cases m with
            | greeting | request | malformed =>
              exact absurd later (never (refuses found' rfl))
            | credentials name password =>
              refine ⟨name, password, rest', rfl, ?_⟩
              by_contra rejected
              have closed : (reply policy .credentials (.credentials name password)).2 =
                  .refused := by
                simp only [reply, if_neg rejected]
              exact never (refuses found' closed) later
        · have phase : Phase.afterMethod (policy.select methods) = .refused := by
            simp only [Phase.afterMethod, if_neg none, if_neg selected]
          rw [phase] at later
          have waits := congrArg Prod.snd (serve_closed policy (Or.inr rfl) rest)
          exact absurd (waits.symm.trans later) nofun

end Outcome

end Socks5Server
