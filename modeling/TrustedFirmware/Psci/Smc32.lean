import TrustedFirmware.Psci.Walks

/-!
# What a request reads of its argument registers

`psci_smc_handler` passes `x1`, `x2` and `x3` to the front-end functions by C's conversions:
an `unsigned int` parameter (`power_state`, `lowest_affinity_level`, the migrate target) keeps
the low 32 bits of its register, an `unsigned long` parameter the whole register. Nothing masks
the registers of a 32-bit (SMC32) call, so the upper halves of `x1`–`x3` of `CPU_ON_AARCH32`,
of `x2` and `x3` of `CPU_SUSPEND_AARCH32` and of `x1` of `AFFINITY_INFO_AARCH32` reach the
rest of the firmware (`cpuOn_aarch32_upper_half_counterexample`). `psciSmcHandler_args` shows
that this is all a request reads.
-/

namespace TrustedFirmware.Psci

variable {σ ν : Type} (P : PsciPlatform σ ν)

/-- Two argument tuples agree on what `psci_smc_handler` reads of them for `smc_fid`: the low
32 bits of a register it passes as `unsigned int`, the whole of a register it passes as
`unsigned long`, and nothing of a register no call reads. -/
def SameArgs (smc_fid : UInt32) (x1 x2 x3 x1' x2' x3' : UInt64) : Prop :=
  match psciFnOf smc_fid with
  | .cpuSuspend => x1.toUInt32 = x1'.toUInt32 ∧ x2 = x2' ∧ x3 = x3'
  | .cpuOn => x1 = x1' ∧ x2 = x2' ∧ x3 = x3'
  | .affinityInfo => x1 = x1' ∧ x2.toUInt32 = x2'.toUInt32
  | _ => True

/-- Two requests with the same function identifier that agree on what it reads (`SameArgs`)
return the same value, make the same calls with the same arguments and leave the same
topology; `x4` is never read. A 32-bit power-on request hands `x1` whole to
`psci_validate_mpidr` and `x1`, `x2`, `x3` whole to `psci_afflvl_on`; a 32-bit suspend request
hands `x2` and `x3` whole to `psci_afflvl_suspend`; a 32-bit affinity query hands `x1` whole
to `psci_get_aff_map_node`. -/
theorem psciSmcHandler_args (smc_fid : UInt32) (x1 x2 x3 x4 x1' x2' x3' x4' : UInt64)
    (w : PsciWorld σ) :
    (SameArgs smc_fid x1 x2 x3 x1' x2' x3' →
      (psciSmcHandler P smc_fid x1 x2 x3 x4).run w =
        (psciSmcHandler P smc_fid x1' x2' x3' x4').run w) ∧
    PsciCall.validateMpidr x1 MPIDR_AFFLVL0 ∈
      (endWorld ((psciSmcHandler P PSCI_CPU_ON_AARCH32 x1 x2 x3 x4).run w)).calls ∧
    (isPresent P (P.psciGetAffMapNode w.st x1 MPIDR_AFFLVL0) = true →
      PsciCall.afflvlOn x1 x2 x3 MPIDR_AFFLVL0 P.getMaxAfflvl ∈
        (endWorld ((psciSmcHandler P PSCI_CPU_ON_AARCH32 x1 x2 x3 x4).run w)).calls) ∧
    (psciGetPstateType x1.toUInt32 ≠ 0 →
      (psciGetPstateAfflvl x1.toUInt32).toNat ≤ MPIDR_MAX_AFFLVL →
      PsciCall.afflvlSuspend (P.readMpidr w.st) x2 x3 x1.toUInt32 MPIDR_AFFLVL0
          (psciGetPstateAfflvl x1.toUInt32).toNat ∈
        (endWorld ((psciSmcHandler P PSCI_CPU_SUSPEND_AARCH32 x1 x2 x3 x4).run w)).calls) ∧
    (x2.toUInt32.toNat ≤ P.getMaxAfflvl →
      PsciCall.getAffMapNode x1 x2.toUInt32.toNat ∈
        (endWorld ((psciSmcHandler P PSCI_AFFINITY_INFO_AARCH32 x1 x2 x3 x4).run w)).calls) := by
  refine ⟨fun h => ?_, ?_, fun hp => ?_, fun ht hl => ?_, fun hl => ?_⟩
  · unfold psciSmcHandler SameArgs at *
    revert h
    cases psciFnOf smc_fid <;> intro h
    case cpuSuspend => obtain ⟨h1, rfl, rfl⟩ := h; rw [h1]
    case cpuOn => obtain ⟨rfl, rfl, rfl⟩ := h; rfl
    case affinityInfo => obtain ⟨rfl, h2⟩ := h; rw [h2]
    all_goals rfl
  · rw [psciSmcHandler, show psciFnOf PSCI_CPU_ON_AARCH32 = .cpuOn from rfl,
      endWorld_bind_pure, psciCpuOn_run]
    split <;> simp [endWorld]
  · rw [psciSmcHandler, show psciFnOf PSCI_CPU_ON_AARCH32 = .cpuOn from rfl,
      endWorld_bind_pure, psciCpuOn_run]
    simp [endWorld, hp]
  · rw [psciSmcHandler, show psciFnOf PSCI_CPU_SUSPEND_AARCH32 = .cpuSuspend from rfl,
      endWorld_bind_pure]
    simp only [psciCpuSuspendStub, psciCpuSuspend_run, psciCpuSuspendRc_run]
    simp only [ht, Nat.not_lt.mpr hl, or_self, if_false]
    split <;> simp [endWorld]
  · rw [psciSmcHandler, show psciFnOf PSCI_AFFINITY_INFO_AARCH32 = .affinityInfo from rfl,
      endWorld_bind_pure, psciAffinityInfo_run, if_neg (Nat.not_lt.mpr hl)]
    simp [endWorld]

/-- Two power-on requests on `singleClusterPlatform` whose `x1` agree on the low 32 bits:
`0` is accepted and powered on, `2^32` is refused by `psci_validate_mpidr`. -/
theorem cpuOn_aarch32_upper_half_counterexample :
    (0x100000000 : UInt64).toUInt32 = (0 : UInt64).toUInt32 ∧
    (psciSmcHandler singleClusterPlatform PSCI_CPU_ON_AARCH32 0 0 0 0).run ⟨(), []⟩ =
      .ok 0 ⟨(), [.afflvlOn 0 0 0 MPIDR_AFFLVL0 1, .getAffMapNode 0 MPIDR_AFFLVL0,
        .validateMpidr 0 MPIDR_AFFLVL0]⟩ ∧
    (psciSmcHandler singleClusterPlatform PSCI_CPU_ON_AARCH32 0x100000000 0 0 0).run ⟨(), []⟩ =
      .ok (uint64OfInt PSCI_E_INVALID_PARAMS) ⟨(), [.getAffMapNode 0x100000000 MPIDR_AFFLVL0,
        .validateMpidr 0x100000000 MPIDR_AFFLVL0]⟩ ∧
    uint64OfInt PSCI_E_INVALID_PARAMS ≠ 0 :=
  ⟨by decide, rfl, rfl, by decide⟩

end TrustedFirmware.Psci
