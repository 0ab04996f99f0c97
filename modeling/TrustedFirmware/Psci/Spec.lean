import TrustedFirmware.Psci.Defs

/-!
# What each front-end function does

One lemma per function of the front end, in closed form over the world it starts from: the
code it returns, the calls it records and the topology it leaves. The theorems of the later
modules cite these lemmas and do not unfold the functions.
-/

namespace TrustedFirmware.Psci

variable {σ ν : Type} (P : PsciPlatform σ ν)

@[simp] theorem run_bind {α β : Type} (x : PsciM σ α) (f : α → PsciM σ β) (w : PsciWorld σ) :
    (x >>= f).run w = match x.run w with
      | .ok a w' => (f a).run w'
      | .error e w' => .error e w' := by
  show EStateM.bind x f w = match x w with
    | .ok a w' => f a w'
    | .error e w' => .error e w'
  delta EStateM.bind
  cases x w <;> rfl

@[simp] theorem run_pure {α : Type} (a : α) (w : PsciWorld σ) :
    (pure a : PsciM σ α).run w = .ok a w := rfl

@[simp] theorem run_map {α β : Type} (f : α → β) (x : PsciM σ α) (w : PsciWorld σ) :
    (f <$> x).run w = match x.run w with
      | .ok a w' => .ok (f a) w'
      | .error e w' => .error e w' := by
  show EStateM.map f x w = match x w with
    | .ok a w' => .ok (f a) w'
    | .error e w' => .error e w'
  delta EStateM.map
  cases x w <;> rfl

theorem run_bind_pure_eq_ok {α β : Type} {x : PsciM σ α} {f : α → β} {w w' : PsciWorld σ}
    {v : β} : (x >>= fun a => pure (f a)).run w = .ok v w' ↔ ∃ a, x.run w = .ok a w' ∧ f a = v := by
  rw [run_bind]
  cases x.run w with
  | ok a w₁ =>
    simp only [run_pure, EStateM.Result.ok.injEq]
    exact ⟨fun ⟨hv, hw⟩ => ⟨a, ⟨rfl, hw⟩, hv⟩, fun ⟨_, ⟨rfl, hw⟩, hv⟩ => ⟨hv, hw⟩⟩
  | error e w₁ => simp

@[simp] theorem psciAssert_run (cond : Bool) (w : PsciWorld σ) :
    (psciAssert cond).run w = if cond then .ok () w else .error .assertion w := by
  cases cond <;> rfl

@[simp] theorem logCall_run (c : PsciCall) (w : PsciWorld σ) :
    (logCall c).run w = .ok () ⟨w.st, c :: w.calls⟩ := rfl

@[simp] theorem readMpidr_run (w : PsciWorld σ) :
    (readMpidr P).run w = .ok (P.readMpidr w.st) w := rfl

@[simp] theorem psciGetAffMapNode_run (mpidr : UInt64) (aff_lvl : Nat) (w : PsciWorld σ) :
    (psciGetAffMapNode P mpidr aff_lvl).run w =
      .ok (P.psciGetAffMapNode w.st mpidr aff_lvl)
        ⟨w.st, .getAffMapNode mpidr aff_lvl :: w.calls⟩ :=
  rfl

@[simp] theorem runWalk_run (c : PsciCall) (walk : σ → Int × σ) (w : PsciWorld σ) :
    (runWalk c walk).run w = .ok (walk w.st).1 ⟨(walk w.st).2, c :: w.calls⟩ := rfl

@[simp] theorem invalid_params_ne_success : PSCI_E_INVALID_PARAMS ≠ PSCI_E_SUCCESS := by decide

theorem psciValidateMpidr_run (mpidr : UInt64) (level : Nat) (w : PsciWorld σ) :
    (psciValidateMpidr P mpidr level).run w =
      .ok (if isPresent P (P.psciGetAffMapNode w.st mpidr level) then PSCI_E_SUCCESS
        else PSCI_E_INVALID_PARAMS)
        ⟨w.st, .getAffMapNode mpidr level :: .validateMpidr mpidr level :: w.calls⟩ :=
  rfl

theorem psciCpuOn_run (target_cpu entrypoint context_id : UInt64) (w : PsciWorld σ) :
    (psciCpuOn P target_cpu entrypoint context_id).run w =
      if isPresent P (P.psciGetAffMapNode w.st target_cpu MPIDR_AFFLVL0) then
        let r := P.psciAfflvlOn target_cpu entrypoint context_id MPIDR_AFFLVL0 P.getMaxAfflvl w.st
        .ok r.1 ⟨r.2, .afflvlOn target_cpu entrypoint context_id MPIDR_AFFLVL0 P.getMaxAfflvl ::
          .getAffMapNode target_cpu MPIDR_AFFLVL0 :: .validateMpidr target_cpu MPIDR_AFFLVL0 ::
          w.calls⟩
      else .ok PSCI_E_INVALID_PARAMS ⟨w.st, .getAffMapNode target_cpu MPIDR_AFFLVL0 ::
          .validateMpidr target_cpu MPIDR_AFFLVL0 :: w.calls⟩ := by
  unfold psciCpuOn
  simp only [run_bind, psciValidateMpidr_run]
  split <;> rfl

theorem psciCpuSuspendRc_run (power_state : UInt32) (entrypoint context_id : UInt64)
    (w : PsciWorld σ) :
    (psciCpuSuspendRc P power_state entrypoint context_id).run w =
      if psciGetPstateType power_state = 0 ∨
          MPIDR_MAX_AFFLVL < (psciGetPstateAfflvl power_state).toNat then
        .ok PSCI_E_INVALID_PARAMS w
      else
        let r := P.psciAfflvlSuspend (P.readMpidr w.st) entrypoint context_id power_state
          MPIDR_AFFLVL0 (psciGetPstateAfflvl power_state).toNat w.st
        .ok r.1 ⟨r.2, .afflvlSuspend (P.readMpidr w.st) entrypoint context_id power_state
          MPIDR_AFFLVL0 (psciGetPstateAfflvl power_state).toNat :: w.calls⟩ := by
  unfold psciCpuSuspendRc
  by_cases h1 : psciGetPstateType power_state = 0 <;>
    by_cases h2 : MPIDR_MAX_AFFLVL < (psciGetPstateAfflvl power_state).toNat <;>
    simp [h1, h2, psciAfflvlSuspend]

theorem psciCpuSuspend_run (power_state : UInt32) (entrypoint context_id : UInt64)
    (w : PsciWorld σ) :
    (psciCpuSuspend P power_state entrypoint context_id).run w =
      match (psciCpuSuspendRc P power_state entrypoint context_id).run w with
      | .ok rc w' =>
        if rc = PSCI_E_SUCCESS ∨ rc = PSCI_E_INVALID_PARAMS then .ok rc w'
        else .error .assertion w'
      | .error e w' => .error e w' := by
  unfold psciCpuSuspend
  simp only [run_bind]
  cases (psciCpuSuspendRc P power_state entrypoint context_id).run w with
  | ok rc w' =>
    by_cases h1 : rc = PSCI_E_SUCCESS
    · simp [h1]
    · by_cases h2 : rc = PSCI_E_INVALID_PARAMS <;> simp [h1, h2]
  | error e w' => rfl

theorem psciCpuOff_run (w : PsciWorld σ) :
    (psciCpuOff P).run w =
      let r := P.psciAfflvlOff (P.readMpidr w.st) MPIDR_AFFLVL0 P.getMaxAfflvl w.st
      let w' : PsciWorld σ :=
        ⟨r.2, .afflvlOff (P.readMpidr w.st) MPIDR_AFFLVL0 P.getMaxAfflvl :: w.calls⟩
      if r.1 = PSCI_E_SUCCESS ∨ r.1 = PSCI_E_DENIED then .ok r.1 w' else .error .assertion w' := by
  unfold psciCpuOff
  by_cases h1 : (P.psciAfflvlOff (P.readMpidr w.st) MPIDR_AFFLVL0 P.getMaxAfflvl w.st).1 =
    PSCI_E_SUCCESS
  · simp [psciAfflvlOff, h1]
  · by_cases h2 : (P.psciAfflvlOff (P.readMpidr w.st) MPIDR_AFFLVL0 P.getMaxAfflvl w.st).1 =
      PSCI_E_DENIED <;> simp [psciAfflvlOff, h1, h2]

theorem psciAffinityInfo_run (target_affinity : UInt64) (lowest_affinity_level : UInt32)
    (w : PsciWorld σ) :
    (psciAffinityInfo P target_affinity lowest_affinity_level).run w =
      if P.getMaxAfflvl < lowest_affinity_level.toNat then .ok PSCI_E_INVALID_PARAMS w
      else
        let node := P.psciGetAffMapNode w.st target_affinity lowest_affinity_level.toNat
        .ok (match node with
          | some n => if isPresent P node then
              ↑(if (P.psciGetState n).val = PSCI_STATE_SUSPEND then PSCI_STATE_ON
                else (P.psciGetState n).val).toNat
              else PSCI_E_INVALID_PARAMS
          | none => PSCI_E_INVALID_PARAMS)
          ⟨w.st, .getAffMapNode target_affinity lowest_affinity_level.toNat :: w.calls⟩ := by
  unfold psciAffinityInfo
  by_cases h : P.getMaxAfflvl < lowest_affinity_level.toNat
  · simp [h]
  · simp only [h, if_false]
    cases hn : P.psciGetAffMapNode w.st target_affinity lowest_affinity_level.toNat
    · simp [hn]
    · simp only [psciGetAffMapNode_run, run_bind, run_pure, hn, isPresent]
      split <;> rfl

/-- The value `psci_affinity_info` reports for a node's state: `PSCI_STATE_SUSPEND` as
`PSCI_STATE_ON`, every other state as itself. -/
theorem reported_val_ne_suspend (a : AffState) :
    (if a.val = PSCI_STATE_SUSPEND then PSCI_STATE_ON else a.val) ≠ PSCI_STATE_SUSPEND := by
  cases a <;> decide

/-- `psci_affinity_info` answers `PSCI_E_INVALID_PARAMS` exactly when the level is above
`get_max_afflvl()` or the affinity map holds no present node there; otherwise it answers the
node's state with `PSCI_STATE_SUSPEND` reported as `PSCI_STATE_ON`, so never
`PSCI_STATE_SUSPEND`. It always returns, and leaves the topology as it was. -/
theorem psciAffinityInfo_spec (target_affinity : UInt64) (lowest_affinity_level : UInt32)
    (w : PsciWorld σ) :
    ∃ rc w', (psciAffinityInfo P target_affinity lowest_affinity_level).run w = .ok rc w' ∧
      w'.st = w.st ∧
      (rc = PSCI_E_INVALID_PARAMS ↔ P.getMaxAfflvl < lowest_affinity_level.toNat ∨
        isPresent P (P.psciGetAffMapNode w.st target_affinity lowest_affinity_level.toNat) =
          false) ∧
      (∀ n, lowest_affinity_level.toNat ≤ P.getMaxAfflvl →
        P.psciGetAffMapNode w.st target_affinity lowest_affinity_level.toNat = some n →
        isPresent P (some n) = true →
        rc = ↑(if (P.psciGetState n).val = PSCI_STATE_SUSPEND then PSCI_STATE_ON
          else (P.psciGetState n).val).toNat) ∧
      rc ≠ ↑PSCI_STATE_SUSPEND.toNat := by
  rw [psciAffinityInfo_run]
  by_cases h : P.getMaxAfflvl < lowest_affinity_level.toNat
  · simp only [h, if_true]
    exact ⟨_, _, rfl, rfl, by simp [h], fun _ h' => absurd h (by omega), by decide⟩
  · simp only [h, if_false]
    refine ⟨_, _, rfl, rfl, ?_⟩
    cases hn : P.psciGetAffMapNode w.st target_affinity lowest_affinity_level.toNat with
    | none => simp [h, isPresent]; decide
    | some n =>
      cases hp : isPresent P (some n)
      · simp [h, hp]; decide
      · have hne := reported_val_ne_suspend (P.psciGetState n)
        refine ⟨by simp [h, hp, PSCI_E_INVALID_PARAMS], fun n' _ hn' _ => ?_, ?_⟩
        · cases hn'; simp [hp]
        · simp only [hp, if_true]
          exact fun heq => hne (UInt32.toNat.inj (Int.ofNat.inj heq))

end TrustedFirmware.Psci
