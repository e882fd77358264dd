import QvNetfilter.FilterPolicy

/-!
# The translation of a user's rule

A user's rule has `int` ports and a name of any length; the driver's rule has
16-bit ports, of which zero is a wildcard, and a field of `MAX_PATH` characters.
What the driver's rule matches is what the user's rule names exactly under a
condition on the two ports and one on the name.
-/

namespace RuleTranslation

open FilterRules FilterPolicy

section Ports

/-- The driver's rule matches a remote port. -/
def PortMatches (ex : NfRuleEx) (port : UInt16) : Prop :=
  (ex.remotePort = 0 ∨ ex.remotePort = port) ∧ rangeMatches ex.remotePortRange port = true

/-- The user's rule names a port: any port, the one, or the range, as far as it goes. -/
def NamesPort (rule : FilterRule) (port : UInt16) : Prop :=
  if rule.portTo = 0 then rule.portFrom = 0 ∨ rule.portFrom = port.toNat
  else rule.portFrom ≤ port.toNat ∧ port.toNat ≤ rule.portTo

instance (rule : FilterRule) (port : UInt16) : Decidable (NamesPort rule port) :=
  inferInstanceAs (Decidable (ite _ _ _))

/-- A single port of 16 bits. Otherwise a range in which each end is of 16 bits, or is
beyond them and narrowed to where they end; or a range of all ports of which both ends are
narrowed to zero; or one without any port of which the ends are narrowed to the wrong order. -/
def PortsFit (portFrom portTo : Int) : Prop :=
  if portTo = 0 then 0 ≤ portFrom ∧ portFrom ≤ 65535
  else if portTo < 0 ∨ 65535 < portFrom ∨ portTo < portFrom then
    portTo % 65536 < portFrom % 65536
  else
    ((0 ≤ portFrom ∨ portFrom % 65536 = 0) ∧ (portTo ≤ 65535 ∨ portTo % 65536 = 65535)) ∨
    ((portFrom ≤ 0 ∧ portFrom % 65536 = 0) ∧ 65535 ≤ portTo ∧ portTo % 65536 = 0)

theorem toUShort_toNat_mod (x : Int) : ((toUShort x).toNat : Int) = x % 65536 := by
  rw [toUShort, UInt16.toNat_ofNat']
  omega

theorem toUShort_zero_iff (x : Int) : toUShort x = 0 ↔ x % 65536 = 0 := by
  have narrowed := toUShort_toNat_mod x
  rw [← UInt16.toNat_inj]
  constructor
  · intro zero
    rw [zero] at narrowed
    exact narrowed.symm
  · intro zero
    have none : (toUShort x).toNat = 0 := by omega
    exact none

/-- The ports that the driver's rule matches, in terms of the user's. -/
theorem portMatches_userRule (rule : FilterRule) (port : UInt16) :
    PortMatches (userRule rule) port ↔
      if rule.portTo = 0 then
        rule.portFrom % 65536 = 0 ∨ rule.portFrom % 65536 = port.toNat
      else (rule.portFrom % 65536 = 0 ∧ rule.portTo % 65536 = 0) ∨
        (rule.portFrom % 65536 ≤ port.toNat ∧ port.toNat ≤ rule.portTo % 65536) := by
  have hfrom := toUShort_toNat_mod rule.portFrom
  have hto := toUShort_toNat_mod rule.portTo
  have zeroFrom := toUShort_zero_iff rule.portFrom
  have zeroTo := toUShort_zero_iff rule.portTo
  by_cases range : rule.portTo = 0
  · rw [if_pos range]
    by_cases any : rule.portFrom = 0
    · simp [PortMatches, userRule, range, any, rangeMatches]
    · simp only [PortMatches, userRule, range, any, rangeMatches, zeroFrom, ne_eq,
        not_true_eq_false, not_false_eq_true, if_true, if_false, and_self, and_true]
      rw [← UInt16.toNat_inj]
      omega
  · rw [if_neg range]
    simp only [PortMatches, userRule, range, rangeMatches, zeroFrom, zeroTo, ne_eq,
      not_false_eq_true, if_true, true_or, true_and]
    split
    · rename_i both
      simp [both]
    · rename_i other
      simp only [UInt16.le_iff_toNat_le, decide_eq_true_eq]
      omega

/-- Narrowing a single port: what it says at every port it says at the narrowed one. -/
theorem single_exact_iff (portFrom : Int) :
    (∀ p : Int, 0 ≤ p → p < 65536 →
      (portFrom % 65536 = 0 ∨ portFrom % 65536 = p ↔ portFrom = 0 ∨ portFrom = p)) ↔
      0 ≤ portFrom ∧ portFrom ≤ 65535 := by
  constructor
  · intro exact
    have narrowed := exact (portFrom % 65536) (by omega) (by omega)
    omega
  · intro fits p _ _
    omega

/-- Narrowing a range: the two ends, as they are and as they become, and the first and the
last port decide. -/
theorem range_exact_iff {portFrom portTo : Int} (range : portTo ≠ 0) :
    (∀ p : Int, 0 ≤ p → p < 65536 →
      ((portFrom % 65536 = 0 ∧ portTo % 65536 = 0) ∨
        (portFrom % 65536 ≤ p ∧ p ≤ portTo % 65536) ↔ portFrom ≤ p ∧ p ≤ portTo)) ↔
      PortsFit portFrom portTo := by
  rw [PortsFit, if_neg range]
  constructor
  · intro exact
    have low := exact (portFrom % 65536) (by omega) (by omega)
    have high := exact (portTo % 65536) (by omega) (by omega)
    split
    · omega
    · rename_i some_
      have first := exact 0 (by omega) (by omega)
      have last := exact 65535 (by omega) (by omega)
      have named := exact (max 0 portFrom) (by omega) (by omega)
      have named' := exact (min 65535 portTo) (by omega) (by omega)
      omega
  · intro fits p lo hi
    split at fits
    · omega
    · omega

theorem forall_port {P : Int → Prop} :
    (∀ port : UInt16, P port.toNat) ↔ ∀ p : Int, 0 ≤ p → p < 65536 → P p := by
  constructor
  · intro all p lo hi
    have here := all (toUShort p)
    rw [toUShort_toNat lo (by omega)] at here
    exact here
  · intro all port
    have bound := port.toNat_lt
    exact all port.toNat (by omega) (by omega)

/-- The driver's rule matches exactly the ports that the user's rule names. -/
theorem ports_exact_iff (rule : FilterRule) :
    (∀ port, PortMatches (userRule rule) port ↔ NamesPort rule port) ↔
      PortsFit rule.portFrom rule.portTo := by
  simp only [portMatches_userRule, NamesPort]
  by_cases range : rule.portTo = 0
  · simp only [if_pos range]
    rw [forall_port (P := fun p => (rule.portFrom % 65536 = 0 ∨ rule.portFrom % 65536 = p ↔
      rule.portFrom = 0 ∨ rule.portFrom = p)), single_exact_iff, PortsFit, if_pos range]
  · simp only [if_neg range]
    rw [← range_exact_iff range]
    exact forall_port (P := fun p => ((rule.portFrom % 65536 = 0 ∧ rule.portTo % 65536 = 0) ∨
      (rule.portFrom % 65536 ≤ p ∧ p ≤ rule.portTo % 65536) ↔
        rule.portFrom ≤ p ∧ p ≤ rule.portTo))

end Ports

section Name

/-- A name that the field holds with its terminator, and that a wide string can be. -/
def NameFits (processName : List UInt16) : Prop := processName.length < maxPath ∧ 0 ∉ processName

theorem wcsncpy_length (src : List UInt16) (n : Nat) : (wcsncpy src n).length = n := by
  simp only [wcsncpy, List.length_append, List.length_take, List.length_replicate]
  omega

theorem processName_length (rule : FilterRule) : (userRule rule).processName.length = maxPath := by
  simp only [userRule]
  split
  · exact wcsncpy_length _ _
  · exact List.length_replicate

/-- A terminated string is shorter than the field it is in. -/
theorem cString_length_lt {field : List UInt16} (terminated : 0 ∈ field) :
    (cString field).length < field.length := by
  induction field with
  | nil => cases terminated
  | cons c rest ih =>
    by_cases zero : c = 0
    · simp [cString, zero]
    · have later : 0 ∈ rest := by
        rcases List.mem_cons.mp terminated with rfl | later
        · exact absurd rfl zero
        · exact later
      have shorter := ih later
      simpa [cString, zero] using shorter

theorem cString_self {s : List UInt16} (none : 0 ∉ s) : cString s = s := by
  apply List.takeWhile_eq_self_iff.mpr
  intro c member
  have nonzero : c ≠ 0 := by
    rintro rfl
    exact none member
  simpa using nonzero

/-- The field holds exactly the rule's name, with its terminator. -/
theorem name_exact_iff (rule : FilterRule) :
    cString (userRule rule).processName = rule.processName ∧ 0 ∈ (userRule rule).processName ↔
      NameFits rule.processName := by
  constructor
  · rintro ⟨same, terminated⟩
    refine ⟨?_, ?_⟩
    · have shorter := cString_length_lt terminated
      rwa [same, processName_length] at shorter
    · intro zero
      rw [← same] at zero
      exact cString_nonzero zero rfl
  · rintro ⟨short, none⟩
    by_cases empty : rule.processName = []
    · have field : (userRule rule).processName = noName := if_neg (not_not.mpr empty)
      rw [field, empty]
      exact ⟨noName_empty, by decide⟩
    · have field : (userRule rule).processName = wcsncpy rule.processName maxPath := if_pos empty
      rw [field, cString_wcsncpy short, cString_self none]
      refine ⟨rfl, List.mem_append_right _ ?_⟩
      rw [cString_self none, List.mem_replicate]
      exact ⟨by omega, rfl⟩

end Name

section Rules

/-- The driver's rule matches the ports, the protocol and the process that the user's rule
names, and no others. -/
structure RuleExact (rule : FilterRule) (ex : NfRuleEx) : Prop where
  ports : ∀ port, PortMatches ex port ↔ NamesPort rule port
  protocol : ∀ protocol : Protocol, (ex.protocol = 0 ∨ ex.protocol = protocol.value) ↔
    (rule.networkType = .networkUnspecified ∨ rule.networkType.value = protocol.value)
  name : cString ex.processName = rule.processName
  terminated : ex.processName.length = maxPath ∧ 0 ∈ ex.processName

/-- The translation is exact for the ports and names that fit, and for no others. -/
theorem rule_exact_iff (rule : FilterRule) :
    RuleExact rule (userRule rule) ↔
      PortsFit rule.portFrom rule.portTo ∧ NameFits rule.processName := by
  constructor
  · intro exact
    exact ⟨(ports_exact_iff rule).mp exact.ports,
      (name_exact_iff rule).mp ⟨exact.name, exact.terminated.2⟩⟩
  · rintro ⟨fits, short⟩
    obtain ⟨name, terminated⟩ := (name_exact_iff rule).mpr short
    exact ⟨(ports_exact_iff rule).mpr fits, fun protocol => protocol_match rule protocol.value,
      name, processName_length rule, terminated⟩

/-- Where the translation is exact the driver decides a flow as the user's rule says. -/
theorem RuleExact.covers {rule : FilterRule} (exact : RuleExact rule (userRule rule))
    (nameMatches : List UInt16 → List UInt16 → Bool) (flow : Flow) :
    ruleMatches nameMatches (userRule rule) flow = true ↔ Covers nameMatches rule flow := by
  have ports : PortMatches (userRule rule) flow.remotePort ↔ _ := exact.ports flow.remotePort
  have whole : cString rule.processName = rule.processName := by
    rw [← exact.name]
    exact cString_self fun zero => cString_nonzero zero rfl
  rw [ruleMatches_userRule, exact.name, exact.protocol, ← PortMatches, ports, NamesPort]
  constructor
  · rintro ⟨protocol, port, name⟩
    refine ⟨protocol, ?_, whole.symm ▸ name⟩
    rw [ite_not]
    exact port
  · rintro ⟨protocol, port, name⟩
    rw [ite_not] at port
    exact ⟨protocol, port, whole ▸ name⟩

/-- UDP port 65536 of any process. -/
def port65536 : FilterRule := ⟨65536, 0, .networkUdp, []⟩

/-- A port that does not exist is narrowed to the wildcard. -/
theorem port65536_matches_all :
    (∀ port, PortMatches (userRule port65536) port ∧ ¬ NamesPort port65536 port) ∧
      ¬ RuleExact port65536 (userRule port65536) := by
  have wide : ∀ port, PortMatches (userRule port65536) port ∧ ¬ NamesPort port65536 port := by
    intro port
    have bound := port.toNat_lt
    refine ⟨(portMatches_userRule port65536 port).mpr (Or.inl rfl), ?_⟩
    simp only [NamesPort, port65536, if_true]
    omega
  refine ⟨wide, ?_⟩
  intro exact
  exact (wide 53).2 ((exact.ports 53).mp (wide 53).1)

end Rules

end RuleTranslation
