import TrustedFirmware.Psci.Spec

/-!
# Which walks a request starts

`psci_smc_handler` starts at most one walk over the affinity levels per request. Every walk
starts at `MPIDR_AFFLVL0`; `psci_afflvl_on` and `psci_afflvl_off` end at `get_max_afflvl()`,
and `psci_afflvl_on` runs only for a target that `psci_validate_mpidr` accepted
(`psciSmcHandler_walks`).

`psci_cpu_suspend` bounds the target level by the architecture's `MPIDR_MAX_AFFLVL`, where
`psci_affinity_info` uses the platform's `get_max_afflvl()`: on a platform with fewer levels a
suspend walk can run above the platform's highest level
(`cpuSuspend_walks_above_max_afflvl`).
-/

namespace TrustedFirmware.Psci

variable {σ ν : Type} (P : PsciPlatform σ ν)

/-- The world a run ends in, whether it returns or stops at a failed `assert`. -/
def endWorld {α : Type} : EStateM.Result PsciFault (PsciWorld σ) α → PsciWorld σ
  | .ok _ w => w
  | .error _ w => w

/-- The walks that may be started on the topology of `w`: `psci_afflvl_on` and
`psci_afflvl_off` from `MPIDR_AFFLVL0` to `get_max_afflvl()`, the first only for a target
present in the affinity map; `psci_afflvl_suspend` from `MPIDR_AFFLVL0` to the level of a
power-down `power_state`, at most `MPIDR_MAX_AFFLVL`. Other calls start no walk. -/
def WalkOk (w : PsciWorld σ) : PsciCall → Prop
  | .afflvlOn target_cpu _ _ start_afflvl end_afflvl =>
    start_afflvl = MPIDR_AFFLVL0 ∧ end_afflvl = P.getMaxAfflvl ∧
      isPresent P (P.psciGetAffMapNode w.st target_cpu MPIDR_AFFLVL0) = true
  | .afflvlOff _ start_afflvl end_afflvl =>
    start_afflvl = MPIDR_AFFLVL0 ∧ end_afflvl = P.getMaxAfflvl
  | .afflvlSuspend _ _ _ power_state start_afflvl end_afflvl =>
    start_afflvl = MPIDR_AFFLVL0 ∧ psciGetPstateType power_state ≠ 0 ∧
      end_afflvl = (psciGetPstateAfflvl power_state).toNat ∧ end_afflvl ≤ MPIDR_MAX_AFFLVL
  | _ => True

/-- Every call recorded from `w` to `w'` is a walk that may be started on `w`. -/
def NewWalksOk (w w' : PsciWorld σ) : Prop :=
  ∃ new, w'.calls = new ++ w.calls ∧ ∀ c ∈ new, WalkOk P w c

theorem newWalksOk_self (w : PsciWorld σ) : NewWalksOk P w w := ⟨[], rfl, by simp⟩

/-- A result mapped through `pure` ends in the same world. -/
theorem endWorld_bind_pure {α β : Type} (x : PsciM σ α) (g : α → β) (w : PsciWorld σ) :
    endWorld ((x >>= fun a => pure (g a)).run w) = endWorld (x.run w) := by
  rw [run_bind]; cases x.run w <;> rfl

theorem psciCpuOn_walks (target_cpu entrypoint context_id : UInt64) (w : PsciWorld σ) :
    NewWalksOk P w (endWorld ((psciCpuOn P target_cpu entrypoint context_id).run w)) := by
  rw [psciCpuOn_run]
  split
  · exact ⟨[_, _, _], rfl, by simp [WalkOk, *]⟩
  · exact ⟨[_, _], rfl, by simp [WalkOk]⟩

theorem psciCpuSuspend_walks (power_state : UInt32) (entrypoint context_id : UInt64)
    (w : PsciWorld σ) :
    NewWalksOk P w (endWorld ((psciCpuSuspend P power_state entrypoint context_id).run w)) := by
  rw [psciCpuSuspend_run, psciCpuSuspendRc_run]
  by_cases h : psciGetPstateType power_state = 0 ∨
    MPIDR_MAX_AFFLVL < (psciGetPstateAfflvl power_state).toNat
  · simp [h, endWorld, newWalksOk_self]
  · simp only [h, if_false]
    obtain ⟨h1, h2⟩ := not_or.mp h
    refine ⟨[_], by split <;> rfl, ?_⟩
    simpa [WalkOk, h1] using Nat.le_of_not_lt h2

theorem psciCpuOff_walks (w : PsciWorld σ) :
    NewWalksOk P w (endWorld ((psciCpuOff P).run w)) := by
  rw [psciCpuOff_run]
  exact ⟨[_], by dsimp only; split <;> rfl, by simp [WalkOk]⟩

theorem psciAffinityInfo_walks (target_affinity : UInt64) (lowest_affinity_level : UInt32)
    (w : PsciWorld σ) :
    NewWalksOk P w
      (endWorld ((psciAffinityInfo P target_affinity lowest_affinity_level).run w)) := by
  rw [psciAffinityInfo_run]
  split
  · exact newWalksOk_self P w
  · exact ⟨[_], rfl, by simp [WalkOk]⟩

/-- Every walk a request starts runs from `MPIDR_AFFLVL0`: `psci_afflvl_on` and
`psci_afflvl_off` up to `get_max_afflvl()`, `psci_afflvl_on` only for a target that
`psci_validate_mpidr` accepts, and `psci_afflvl_suspend` only for a power-down
`power_state`, up to its level, which is at most `MPIDR_MAX_AFFLVL`. -/
theorem psciSmcHandler_walks (smc_fid : UInt32) (x1 x2 x3 x4 : UInt64) (w : PsciWorld σ) :
    NewWalksOk P w (endWorld ((psciSmcHandler P smc_fid x1 x2 x3 x4).run w)) := by
  unfold psciSmcHandler
  cases psciFnOf smc_fid
  case cpuOff => rw [endWorld_bind_pure]; exact psciCpuOff_walks P w
  case cpuSuspend => rw [endWorld_bind_pure]; exact psciCpuSuspend_walks P _ x2 x3 w
  case cpuOn => rw [endWorld_bind_pure]; exact psciCpuOn_walks P x1 x2 x3 w
  case affinityInfo => rw [endWorld_bind_pure]; exact psciAffinityInfo_walks P x1 _ w
  case unknown => exact ⟨[_], rfl, by simp [WalkOk]⟩
  all_goals simp [psciSystemOff, psciSystemReset, endWorld, newWalksOk_self]

/-! ## The suspend level is bounded by the architecture, not the platform -/

/-- A platform with one cluster holding core 0: `get_max_afflvl()` is `MPIDR_AFFLVL1`, core 0
is present and on, and every walk succeeds. -/
def singleClusterPlatform : PsciPlatform Unit Unit where
  getMaxAfflvl := 1
  getMaxAfflvl_le := by decide
  readMpidr _ := 0
  psciGetAffMapNode _ mpidr _ := if mpidr = 0 then some () else none
  nodeState _ := PSCI_AFF_PRESENT
  psciGetState _ := .ON
  psciAfflvlOn _ _ _ _ _ s := (PSCI_E_SUCCESS, s)
  psciAfflvlOff _ _ _ s := (PSCI_E_SUCCESS, s)
  psciAfflvlSuspend _ _ _ _ _ _ s := (PSCI_E_SUCCESS, s)

/-- On `singleClusterPlatform`, a power-down suspend to level 2 is handed to
`psci_afflvl_suspend` with `end_afflvl = 2`, above `get_max_afflvl() = 1`. -/
theorem cpuSuspend_walks_above_max_afflvl :
    (psciSmcHandler singleClusterPlatform PSCI_CPU_SUSPEND_AARCH64 0x02010000 0 0 0).run
        ⟨(), []⟩ = .ok 0 ⟨(), [.afflvlSuspend 0 0 0 0x02010000 MPIDR_AFFLVL0 2]⟩ ∧
      psciGetPstateType 0x02010000 ≠ 0 ∧ psciGetPstateAfflvl 0x02010000 = 2 ∧
      singleClusterPlatform.getMaxAfflvl < 2 :=
  ⟨rfl, by decide, by decide, by decide⟩

end TrustedFirmware.Psci
