import TrustedFirmware.Psci.Results

/-!
# The build without asserts

Reference: `psci_main.c` built with `NDEBUG`, under which every `assert` compiles to nothing.
`psci_cpu_off` and `psci_cpu_suspend` then return whatever code their walk returns, and
`psci_system_off` and `psci_system_reset` return to the handler. The handler's `switch` has no
`break` after either call, so `SYSTEM_OFF` runs on into the `SYSTEM_RESET` case, and both into
`default`, which answers `SMC_UNK` after a `WARN`. `WARN` is defined in `debug.h`, which is not
among the sources; both builds record it as a call.

What the two builds have to do with each other (`psciSmcHandlerNdebug_refines`): the build
without asserts answers every request, and wherever the debug build answers, it answers the
same value and leaves the same world. The debug build is the build without asserts with some
runs cut off at a failed `assert`; `SYSTEM_OFF` and `SYSTEM_RESET` are the requests on which
the two differ whatever the state.
-/

namespace TrustedFirmware.Psci

variable {σ ν : Type} (P : PsciPlatform σ ν)

/-- `assert(cond)` with `NDEBUG` defined: nothing. -/
def psciAssertNdebug (_cond : Bool) : PsciM σ Unit := pure ()

/-- `psci_cpu_suspend` without asserts. -/
def psciCpuSuspendNdebug (power_state : UInt32) (entrypoint context_id : UInt64) :
    PsciM σ Int := do
  let rc ← psciCpuSuspendRc P power_state entrypoint context_id
  -- exit:
  if rc ≠ PSCI_E_SUCCESS then
    psciAssertNdebug (rc = PSCI_E_INVALID_PARAMS)
  return rc

/-- `psci_cpu_off` without asserts. -/
def psciCpuOffNdebug : PsciM σ Int := do
  let target_afflvl := P.getMaxAfflvl
  let mpidr ← readMpidr P
  -- Traverse from the highest to the lowest affinity level.
  let rc ← psciAfflvlOff P mpidr MPIDR_AFFLVL0 target_afflvl
  -- The only error cpu_off can return is E_DENIED.
  psciAssertNdebug (rc = PSCI_E_SUCCESS || rc = PSCI_E_DENIED)
  return rc

/-- `psci_system_off` without asserts. -/
def psciSystemOffNdebug : PsciM σ Unit := psciAssertNdebug false

/-- `psci_system_reset` without asserts. -/
def psciSystemResetNdebug : PsciM σ Unit := psciAssertNdebug false

/-- `psci_smc_handler` without asserts, through the same `__psci_cpu_off` and
`__psci_cpu_suspend` stubs; the `SYSTEM_OFF` and `SYSTEM_RESET` cases fall through. -/
def psciSmcHandlerNdebug (smc_fid : UInt32) (x1 x2 x3 _x4 : UInt64) : PsciM σ UInt64 := do
  match psciFnOf smc_fid with
  | .version => return psciVersion.toUInt64
  | .cpuOff => return uint64OfInt (← psciCpuOffNdebug P)
  | .cpuSuspend => return uint64OfInt (← psciCpuSuspendNdebug P x1.toUInt32 x2 x3)
  | .cpuOn => return uint64OfInt (← psciCpuOn P x1 x2 x3)
  | .affinityInfo => return uint64OfInt (← psciAffinityInfo P x1 x2.toUInt32)
  | .mig => return uint64OfInt (psciMigrate x1.toUInt32)
  | .migInfoType => return psciMigrateInfoType.toUInt64
  | .migInfoUpCpu => return psciMigrateInfoUpCpu
  | .systemOff =>
    psciSystemOffNdebug
    psciAssertNdebug false
    psciSystemResetNdebug
    psciAssertNdebug false
    logCall (.warn smc_fid)
    return SMC_UNK
  | .systemReset =>
    psciSystemResetNdebug
    psciAssertNdebug false
    logCall (.warn smc_fid)
    return SMC_UNK
  | .unknown =>
    logCall (.warn smc_fid)
    return SMC_UNK

/-! ## Closed forms -/

@[simp] theorem psciAssertNdebug_run (cond : Bool) (w : PsciWorld σ) :
    (psciAssertNdebug cond).run w = .ok () w := rfl

theorem psciCpuSuspendNdebug_run (power_state : UInt32) (entrypoint context_id : UInt64)
    (w : PsciWorld σ) :
    (psciCpuSuspendNdebug P power_state entrypoint context_id).run w =
      (psciCpuSuspendRc P power_state entrypoint context_id).run w := by
  unfold psciCpuSuspendNdebug
  simp only [run_bind]
  cases (psciCpuSuspendRc P power_state entrypoint context_id).run w with
  | ok rc w' => by_cases h : rc = PSCI_E_SUCCESS <;> simp [h]
  | error e w' => rfl

theorem psciCpuOffNdebug_run (w : PsciWorld σ) :
    (psciCpuOffNdebug P).run w =
      let r := P.psciAfflvlOff (P.readMpidr w.st) MPIDR_AFFLVL0 P.getMaxAfflvl w.st
      .ok r.1 ⟨r.2, .afflvlOff (P.readMpidr w.st) MPIDR_AFFLVL0 P.getMaxAfflvl :: w.calls⟩ :=
  rfl

/-! ## The debug build refines the build without asserts -/

theorem psciCpuSuspend_ndebug {power_state : UInt32} {entrypoint context_id : UInt64}
    {w w' : PsciWorld σ} {rc : Int}
    (h : (psciCpuSuspend P power_state entrypoint context_id).run w = .ok rc w') :
    (psciCpuSuspendNdebug P power_state entrypoint context_id).run w = .ok rc w' := by
  rw [psciCpuSuspendNdebug_run]
  rcases hr : (psciCpuSuspendRc P power_state entrypoint context_id).run w with ⟨rc', w''⟩ | ⟨e, w''⟩
  all_goals simp only [psciCpuSuspend_run, hr] at h
  · by_cases hc : rc' = PSCI_E_SUCCESS ∨ rc' = PSCI_E_INVALID_PARAMS
    · rwa [if_pos hc] at h
    · rw [if_neg hc] at h
      cases h
  · cases h

theorem psciCpuOff_ndebug {w w' : PsciWorld σ} {rc : Int} (h : (psciCpuOff P).run w = .ok rc w') :
    (psciCpuOffNdebug P).run w = .ok rc w' := by
  rw [psciCpuOff_run] at h
  rw [psciCpuOffNdebug_run]
  dsimp only at h ⊢
  split at h
  · exact h
  · cases h

theorem psciSmcHandlerNdebug_of_ok {smc_fid : UInt32} {x1 x2 x3 x4 v : UInt64}
    {w w' : PsciWorld σ} (h : (psciSmcHandler P smc_fid x1 x2 x3 x4).run w = .ok v w') :
    (psciSmcHandlerNdebug P smc_fid x1 x2 x3 x4).run w = .ok v w' := by
  unfold psciSmcHandler at h
  unfold psciSmcHandlerNdebug
  revert h
  cases psciFnOf smc_fid <;> intro h <;> dsimp only at h ⊢
  case cpuOff =>
    obtain ⟨rc, hrc, rfl⟩ := run_bind_pure_eq_ok.mp h
    exact run_bind_pure_eq_ok.mpr ⟨rc, psciCpuOff_ndebug P hrc, rfl⟩
  case cpuSuspend =>
    obtain ⟨rc, hrc, rfl⟩ := run_bind_pure_eq_ok.mp h
    exact run_bind_pure_eq_ok.mpr ⟨rc, psciCpuSuspend_ndebug P hrc, rfl⟩
  case systemOff | systemReset => simp [psciSystemOff, psciSystemReset] at h
  all_goals exact h

/-! ## Without asserts the handler always answers -/

theorem psciCpuSuspendRc_ok (power_state : UInt32) (entrypoint context_id : UInt64)
    (w : PsciWorld σ) :
    ∃ rc w', (psciCpuSuspendRc P power_state entrypoint context_id).run w = .ok rc w' := by
  rw [psciCpuSuspendRc_run]
  split <;> exact ⟨_, _, rfl⟩

theorem psciCpuOn_ok (target_cpu entrypoint context_id : UInt64) (w : PsciWorld σ) :
    ∃ rc w', (psciCpuOn P target_cpu entrypoint context_id).run w = .ok rc w' := by
  rw [psciCpuOn_run]
  split <;> exact ⟨_, _, rfl⟩

theorem psciSmcHandlerNdebug_ok (smc_fid : UInt32) (x1 x2 x3 x4 : UInt64) (w : PsciWorld σ) :
    ∃ v w', (psciSmcHandlerNdebug P smc_fid x1 x2 x3 x4).run w = .ok v w' := by
  unfold psciSmcHandlerNdebug
  have lift : ∀ {x : PsciM σ Int}, (∃ rc w', x.run w = .ok rc w') →
      ∃ v w', (x >>= fun rc => pure (uint64OfInt rc)).run w = .ok v w' :=
    fun ⟨rc, w', h⟩ => ⟨_, w', run_bind_pure_eq_ok.mpr ⟨rc, h, rfl⟩⟩
  cases psciFnOf smc_fid <;> dsimp only
  case cpuOff => exact lift ⟨_, _, psciCpuOffNdebug_run P w⟩
  case cpuSuspend =>
    obtain ⟨rc, w', h⟩ := psciCpuSuspendRc_ok P x1.toUInt32 x2 x3 w
    exact lift ⟨rc, w', (psciCpuSuspendNdebug_run P _ _ _ w).trans h⟩
  case cpuOn => exact lift (psciCpuOn_ok P x1 x2 x3 w)
  case affinityInfo =>
    obtain ⟨rc, w', h, -⟩ := psciAffinityInfo_ok P x1 x2.toUInt32 w
    exact lift ⟨rc, w', h⟩
  all_goals exact ⟨_, _, rfl⟩

theorem psciSmcHandler_system_stops {smc_fid : UInt32} (x1 x2 x3 x4 : UInt64) (w : PsciWorld σ)
    (h : psciFnOf smc_fid = .systemOff ∨ psciFnOf smc_fid = .systemReset) :
    ∃ w', (psciSmcHandler P smc_fid x1 x2 x3 x4).run w = .error .assertion w' := by
  unfold psciSmcHandler
  rcases h with h | h <;> simp only [h] <;> exact ⟨w, rfl⟩

theorem psciSmcHandlerNdebug_system {smc_fid : UInt32} (x1 x2 x3 x4 : UInt64) (w : PsciWorld σ)
    (h : psciFnOf smc_fid = .systemOff ∨ psciFnOf smc_fid = .systemReset) :
    (psciSmcHandlerNdebug P smc_fid x1 x2 x3 x4).run w =
      .ok SMC_UNK ⟨w.st, .warn smc_fid :: w.calls⟩ := by
  unfold psciSmcHandlerNdebug
  rcases h with h | h <;> simp only [h] <;> rfl

/-- The debug build refines the build without asserts: for every request and every state of
the topology, the build without asserts answers, and answers what the debug build answers, with
the same calls made and the same topology left, wherever the debug build answers. On
`SYSTEM_OFF` and `SYSTEM_RESET`, where the debug build always stops, it makes the `WARN` call
and answers `SMC_UNK`, changing nothing else. -/
theorem psciSmcHandlerNdebug_refines (smc_fid : UInt32) (x1 x2 x3 x4 : UInt64)
    (w : PsciWorld σ) :
    (∃ v w', (psciSmcHandlerNdebug P smc_fid x1 x2 x3 x4).run w = .ok v w') ∧
    (∀ v w', (psciSmcHandler P smc_fid x1 x2 x3 x4).run w = .ok v w' →
      (psciSmcHandlerNdebug P smc_fid x1 x2 x3 x4).run w = .ok v w') ∧
    (psciFnOf smc_fid = .systemOff ∨ psciFnOf smc_fid = .systemReset →
      (∃ w', (psciSmcHandler P smc_fid x1 x2 x3 x4).run w = .error .assertion w') ∧
      (psciSmcHandlerNdebug P smc_fid x1 x2 x3 x4).run w =
        .ok SMC_UNK ⟨w.st, .warn smc_fid :: w.calls⟩) :=
  ⟨psciSmcHandlerNdebug_ok P smc_fid x1 x2 x3 x4 w,
    fun _ _ h => psciSmcHandlerNdebug_of_ok P h,
    fun h => ⟨psciSmcHandler_system_stops P x1 x2 x3 x4 w h,
      psciSmcHandlerNdebug_system P x1 x2 x3 x4 w h⟩⟩

end TrustedFirmware.Psci
