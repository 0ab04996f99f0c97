import TrustedFirmware.CTypes

/-!
# The PSCI front end

Reference: `psci_main.c` (`psci_cpu_on`, `psci_cpu_suspend`, `psci_cpu_off`,
`psci_affinity_info`, the migrate calls and `psci_smc_handler`).

The front end validates a request and hands it to one of three walks over the affinity levels
(`psci_afflvl_on`, `psci_afflvl_off`, `psci_afflvl_suspend`), which live in the rest of the
PSCI library. The walks, the affinity map and the platform's level count are the fields of
`PsciPlatform`, over the state `σ` of the topology; the front end runs in `PsciM`, which threads
that state, records every call it makes to the rest of the library with its arguments, and
keeps both when a failed `assert` stops the core.

The constants are those of `psci.h`, `arch.h` and `runtime_svc.h`, which are not among the
sources: the PSCI 0.2 function identifiers, return codes and power-state layout.
-/

namespace TrustedFirmware.Psci

/-! ## Constants -/

/-- `PSCI_E_SUCCESS`. -/
def PSCI_E_SUCCESS : Int := 0
/-- `PSCI_E_NOT_SUPPORTED`. -/
def PSCI_E_NOT_SUPPORTED : Int := -1
/-- `PSCI_E_INVALID_PARAMS`. -/
def PSCI_E_INVALID_PARAMS : Int := -2
/-- `PSCI_E_DENIED`. -/
def PSCI_E_DENIED : Int := -3

/-- `PSCI_AFF_PRESENT`, the presence flag of an affinity node's `state`. -/
def PSCI_AFF_PRESENT : UInt32 := 0x1
/-- `PSCI_STATE_ON`. -/
def PSCI_STATE_ON : UInt32 := 0x0
/-- `PSCI_STATE_OFF`. -/
def PSCI_STATE_OFF : UInt32 := 0x1
/-- `PSCI_STATE_ON_PENDING`. -/
def PSCI_STATE_ON_PENDING : UInt32 := 0x2
/-- `PSCI_STATE_SUSPEND`. -/
def PSCI_STATE_SUSPEND : UInt32 := 0x3

/-- `MPIDR_AFFLVL0`, the level of a single core. -/
def MPIDR_AFFLVL0 : Nat := 0
/-- `MPIDR_MAX_AFFLVL`, the highest affinity level of the architecture's MPIDR. -/
def MPIDR_MAX_AFFLVL : Nat := 2

/-- `PSCI_MAJOR_VER`. -/
def PSCI_MAJOR_VER : UInt32 := (0 : UInt32) <<< 16
/-- `PSCI_MINOR_VER`. -/
def PSCI_MINOR_VER : UInt32 := 0x2
/-- `PSCI_TOS_NOT_PRESENT`: no Trusted OS that needs migrating. -/
def PSCI_TOS_NOT_PRESENT : UInt32 := 0x2
/-- `SMC_UNK`, the answer to an unknown function identifier. -/
def SMC_UNK : UInt64 := 0xffffffff

/-- `PSCI_VERSION`. -/
def PSCI_VERSION : UInt32 := 0x84000000
/-- `PSCI_CPU_SUSPEND_AARCH32`. -/
def PSCI_CPU_SUSPEND_AARCH32 : UInt32 := 0x84000001
/-- `PSCI_CPU_SUSPEND_AARCH64`. -/
def PSCI_CPU_SUSPEND_AARCH64 : UInt32 := 0xc4000001
/-- `PSCI_CPU_OFF`. -/
def PSCI_CPU_OFF : UInt32 := 0x84000002
/-- `PSCI_CPU_ON_AARCH32`. -/
def PSCI_CPU_ON_AARCH32 : UInt32 := 0x84000003
/-- `PSCI_CPU_ON_AARCH64`. -/
def PSCI_CPU_ON_AARCH64 : UInt32 := 0xc4000003
/-- `PSCI_AFFINITY_INFO_AARCH32`. -/
def PSCI_AFFINITY_INFO_AARCH32 : UInt32 := 0x84000004
/-- `PSCI_AFFINITY_INFO_AARCH64`. -/
def PSCI_AFFINITY_INFO_AARCH64 : UInt32 := 0xc4000004
/-- `PSCI_MIG_AARCH32`. -/
def PSCI_MIG_AARCH32 : UInt32 := 0x84000005
/-- `PSCI_MIG_AARCH64`. -/
def PSCI_MIG_AARCH64 : UInt32 := 0xc4000005
/-- `PSCI_MIG_INFO_TYPE`. -/
def PSCI_MIG_INFO_TYPE : UInt32 := 0x84000006
/-- `PSCI_MIG_INFO_UP_CPU_AARCH32`. -/
def PSCI_MIG_INFO_UP_CPU_AARCH32 : UInt32 := 0x84000007
/-- `PSCI_MIG_INFO_UP_CPU_AARCH64`. -/
def PSCI_MIG_INFO_UP_CPU_AARCH64 : UInt32 := 0xc4000007
/-- `PSCI_SYSTEM_OFF`. -/
def PSCI_SYSTEM_OFF : UInt32 := 0x84000008
/-- `PSCI_SYSTEM_RESET`. -/
def PSCI_SYSTEM_RESET : UInt32 := 0x84000009

/-- `psci_get_pstate_type(pstate)`: bit 16, standby (0) or power-down (1). -/
def psciGetPstateType (pstate : UInt32) : UInt32 := (pstate >>> 16) &&& 0x1

/-- `psci_get_pstate_afflvl(pstate)`: bits 24 and 25, the target affinity level. -/
def psciGetPstateAfflvl (pstate : UInt32) : UInt32 := (pstate >>> 24) &&& 0x3

/-! ## The rest of the firmware, and the front end's monad -/

/-- The state `psci_get_state` reports for a node: one of the four PSCI affinity states. -/
inductive AffState
  | ON | OFF | ON_PENDING | SUSPEND
  deriving DecidableEq, Repr

/-- The `PSCI_STATE_*` value of an affinity state. -/
def AffState.val : AffState → UInt32
  | ON => PSCI_STATE_ON
  | OFF => PSCI_STATE_OFF
  | ON_PENDING => PSCI_STATE_ON_PENDING
  | SUSPEND => PSCI_STATE_SUSPEND

/-- What the front end takes from the rest of the firmware, over the state `σ` of the
topology and with affinity-map nodes `ν`: `get_max_afflvl()` (at most `MPIDR_MAX_AFFLVL`),
`read_mpidr()`, `psci_get_aff_map_node`, a node's `state` word, `psci_get_state`, and the
three walks with the code each returns. -/
structure PsciPlatform (σ ν : Type) where
  getMaxAfflvl : Nat
  getMaxAfflvl_le : getMaxAfflvl ≤ MPIDR_MAX_AFFLVL
  readMpidr : σ → UInt64
  psciGetAffMapNode : σ → UInt64 → Nat → Option ν
  nodeState : ν → UInt32
  psciGetState : ν → AffState
  psciAfflvlOn : UInt64 → UInt64 → UInt64 → Nat → Nat → σ → Int × σ
  psciAfflvlOff : UInt64 → Nat → Nat → σ → Int × σ
  psciAfflvlSuspend : UInt64 → UInt64 → UInt64 → UInt32 → Nat → Nat → σ → Int × σ

/-- A call the front end makes to the rest of the firmware, with the arguments it passes. -/
inductive PsciCall
  | validateMpidr (mpidr : UInt64) (level : Nat)
  | getAffMapNode (mpidr : UInt64) (aff_lvl : Nat)
  | afflvlOn (target_cpu entrypoint context_id : UInt64) (start_afflvl end_afflvl : Nat)
  | afflvlOff (mpidr : UInt64) (start_afflvl end_afflvl : Nat)
  | afflvlSuspend (mpidr entrypoint context_id : UInt64) (power_state : UInt32)
      (start_afflvl end_afflvl : Nat)
  | warn (smc_fid : UInt32)
  deriving DecidableEq, Repr

/-- The state of the topology and the calls made so far, the latest first. -/
structure PsciWorld (σ : Type) where
  st : σ
  calls : List PsciCall

/-- Why a core stops in the front end: a failed `assert`. -/
inductive PsciFault
  | assertion
  deriving DecidableEq, Repr

/-- The front end's monad: state passing over `PsciWorld`, stopping at a failed `assert` with
the world as it is then. -/
abbrev PsciM (σ : Type) := EStateM PsciFault (PsciWorld σ)

variable {σ ν : Type} (P : PsciPlatform σ ν)

/-- Record a call. -/
def logCall (c : PsciCall) : PsciM σ Unit :=
  modify fun w => { w with calls := c :: w.calls }

/-- `assert(cond)`. -/
def psciAssert (cond : Bool) : PsciM σ Unit :=
  if cond then pure () else throw .assertion

/-- `read_mpidr()`. -/
def readMpidr : PsciM σ UInt64 := do
  return P.readMpidr (← get).st

/-- `psci_get_aff_map_node(mpidr, aff_lvl)`. -/
def psciGetAffMapNode (mpidr : UInt64) (aff_lvl : Nat) : PsciM σ (Option ν) := do
  logCall (.getAffMapNode mpidr aff_lvl)
  return P.psciGetAffMapNode (← get).st mpidr aff_lvl

/-- `node && (node->state & PSCI_AFF_PRESENT)`. -/
def isPresent : Option ν → Bool
  | some node => P.nodeState node &&& PSCI_AFF_PRESENT != 0
  | none => false

/-- A walk over the affinity levels: record the call, then run it on the topology. -/
def runWalk (c : PsciCall) (walk : σ → Int × σ) : PsciM σ Int := do
  logCall c
  let w ← get
  set { w with st := (walk w.st).2 }
  return (walk w.st).1

/-- `psci_afflvl_on`. -/
def psciAfflvlOn (target_cpu entrypoint context_id : UInt64) (start_afflvl end_afflvl : Nat) :
    PsciM σ Int :=
  runWalk (.afflvlOn target_cpu entrypoint context_id start_afflvl end_afflvl)
    (P.psciAfflvlOn target_cpu entrypoint context_id start_afflvl end_afflvl)

/-- `psci_afflvl_off`. -/
def psciAfflvlOff (mpidr : UInt64) (start_afflvl end_afflvl : Nat) : PsciM σ Int :=
  runWalk (.afflvlOff mpidr start_afflvl end_afflvl)
    (P.psciAfflvlOff mpidr start_afflvl end_afflvl)

/-- `psci_afflvl_suspend`. -/
def psciAfflvlSuspend (mpidr entrypoint context_id : UInt64) (power_state : UInt32)
    (start_afflvl end_afflvl : Nat) : PsciM σ Int :=
  runWalk (.afflvlSuspend mpidr entrypoint context_id power_state start_afflvl end_afflvl)
    (P.psciAfflvlSuspend mpidr entrypoint context_id power_state start_afflvl end_afflvl)

/-- Modelled from the spec: `psci_validate_mpidr` (not among the sources) answers
`PSCI_E_SUCCESS` when the affinity map holds a present node for `mpidr` at `level`, and
`PSCI_E_INVALID_PARAMS` otherwise. -/
def psciValidateMpidr (mpidr : UInt64) (level : Nat) : PsciM σ Int := do
  logCall (.validateMpidr mpidr level)
  let node ← psciGetAffMapNode P mpidr level
  return if isPresent P node then PSCI_E_SUCCESS else PSCI_E_INVALID_PARAMS

/-! ## The front end -/

/-- `psci_cpu_on`. -/
def psciCpuOn (target_cpu entrypoint context_id : UInt64) : PsciM σ Int := do
  -- Determine if the cpu exists of not
  let rc ← psciValidateMpidr P target_cpu MPIDR_AFFLVL0
  if rc ≠ PSCI_E_SUCCESS then
    return rc
  let start_afflvl := MPIDR_AFFLVL0
  let end_afflvl := P.getMaxAfflvl
  psciAfflvlOn P target_cpu entrypoint context_id start_afflvl end_afflvl

/-- `psci_version`. -/
def psciVersion : UInt32 := PSCI_MAJOR_VER ||| PSCI_MINOR_VER

/-- `psci_cpu_suspend`, up to its `exit` label: standby requests and target levels above
`MPIDR_MAX_AFFLVL` are refused, every other request walks up to its target level. -/
def psciCpuSuspendRc (power_state : UInt32) (entrypoint context_id : UInt64) : PsciM σ Int := do
  -- TODO: Standby states are not supported at the moment
  let pstate_type := psciGetPstateType power_state
  if pstate_type = 0 then
    return PSCI_E_INVALID_PARAMS
  -- Sanity check the requested state
  let target_afflvl := psciGetPstateAfflvl power_state
  if target_afflvl.toNat > MPIDR_MAX_AFFLVL then
    return PSCI_E_INVALID_PARAMS
  let mpidr ← readMpidr P
  psciAfflvlSuspend P mpidr entrypoint context_id power_state MPIDR_AFFLVL0 target_afflvl.toNat

/-- `psci_cpu_suspend`. -/
def psciCpuSuspend (power_state : UInt32) (entrypoint context_id : UInt64) : PsciM σ Int := do
  let rc ← psciCpuSuspendRc P power_state entrypoint context_id
  -- exit:
  if rc ≠ PSCI_E_SUCCESS then
    psciAssert (rc = PSCI_E_INVALID_PARAMS)
  return rc

/-- `psci_cpu_off`. -/
def psciCpuOff : PsciM σ Int := do
  let target_afflvl := P.getMaxAfflvl
  let mpidr ← readMpidr P
  -- Traverse from the highest to the lowest affinity level.
  let rc ← psciAfflvlOff P mpidr MPIDR_AFFLVL0 target_afflvl
  -- The only error cpu_off can return is E_DENIED.
  psciAssert (rc = PSCI_E_SUCCESS || rc = PSCI_E_DENIED)
  return rc

/-- `psci_affinity_info`. -/
def psciAffinityInfo (target_affinity : UInt64) (lowest_affinity_level : UInt32) :
    PsciM σ Int := do
  let rc := PSCI_E_INVALID_PARAMS
  if lowest_affinity_level.toNat > P.getMaxAfflvl then
    return rc
  let node ← psciGetAffMapNode P target_affinity lowest_affinity_level.toNat
  match node with
  | some n =>
    if P.nodeState n &&& PSCI_AFF_PRESENT != 0 then
      let aff_state := (P.psciGetState n).val
      -- A suspended cpu is available & on for the OS
      let aff_state := if aff_state = PSCI_STATE_SUSPEND then PSCI_STATE_ON else aff_state
      return aff_state.toNat
    else return rc
  | none => return rc

/-- `psci_migrate` (unimplemented). -/
def psciMigrate (_target_cpu : UInt32) : Int := PSCI_E_NOT_SUPPORTED

/-- `psci_migrate_info_type` (unimplemented). -/
def psciMigrateInfoType : UInt32 := PSCI_TOS_NOT_PRESENT

/-- `psci_migrate_info_up_cpu`. -/
def psciMigrateInfoUpCpu : UInt64 := uint64OfInt PSCI_E_SUCCESS

/-- `psci_system_off` (unimplemented): `assert(0)`. -/
def psciSystemOff : PsciM σ Unit := psciAssert false

/-- `psci_system_reset` (unimplemented): `assert(0)`. -/
def psciSystemReset : PsciM σ Unit := psciAssert false

/-- Modelled from the spec: `__psci_cpu_off`, the entry stub (not among the sources) through
which the handler reaches `psci_cpu_off`; core-off maps onto `off`. -/
def psciCpuOffStub : PsciM σ Int := psciCpuOff P

/-- Modelled from the spec: `__psci_cpu_suspend`, the entry stub (not among the sources)
through which the handler reaches `psci_cpu_suspend`; core-suspend maps onto `suspend`, with
`power_state` the `unsigned int` of `psci_cpu_suspend`. -/
def psciCpuSuspendStub (power_state : UInt32) (entrypoint context_id : UInt64) : PsciM σ Int :=
  psciCpuSuspend P power_state entrypoint context_id

/-- The case of `psci_smc_handler`'s `switch` that a function identifier selects. -/
inductive PsciFn
  | version | cpuOff | cpuSuspend | cpuOn | affinityInfo | mig | migInfoType | migInfoUpCpu
  | systemOff | systemReset | unknown
  deriving DecidableEq, Repr

/-- The case labels of `psci_smc_handler`'s `switch`. -/
def psciFnOf (smc_fid : UInt32) : PsciFn :=
  if smc_fid = PSCI_VERSION then .version
  else if smc_fid = PSCI_CPU_OFF then .cpuOff
  else if smc_fid = PSCI_CPU_SUSPEND_AARCH64 ∨ smc_fid = PSCI_CPU_SUSPEND_AARCH32 then .cpuSuspend
  else if smc_fid = PSCI_CPU_ON_AARCH64 ∨ smc_fid = PSCI_CPU_ON_AARCH32 then .cpuOn
  else if smc_fid = PSCI_AFFINITY_INFO_AARCH32 ∨ smc_fid = PSCI_AFFINITY_INFO_AARCH64 then
    .affinityInfo
  else if smc_fid = PSCI_MIG_AARCH32 ∨ smc_fid = PSCI_MIG_AARCH64 then .mig
  else if smc_fid = PSCI_MIG_INFO_TYPE then .migInfoType
  else if smc_fid = PSCI_MIG_INFO_UP_CPU_AARCH32 ∨ smc_fid = PSCI_MIG_INFO_UP_CPU_AARCH64 then
    .migInfoUpCpu
  else if smc_fid = PSCI_SYSTEM_OFF then .systemOff
  else if smc_fid = PSCI_SYSTEM_RESET then .systemReset
  else .unknown

/-- `psci_smc_handler`: the value it returns in `x0` through `SMC_RET1`. An argument register
passed to an `unsigned int` parameter keeps its low 32 bits; `x4` is read by no call. -/
def psciSmcHandler (smc_fid : UInt32) (x1 x2 x3 _x4 : UInt64) : PsciM σ UInt64 := do
  match psciFnOf smc_fid with
  | .version => return psciVersion.toUInt64
  | .cpuOff => return uint64OfInt (← psciCpuOffStub P)
  | .cpuSuspend => return uint64OfInt (← psciCpuSuspendStub P x1.toUInt32 x2 x3)
  | .cpuOn => return uint64OfInt (← psciCpuOn P x1 x2 x3)
  | .affinityInfo => return uint64OfInt (← psciAffinityInfo P x1 x2.toUInt32)
  | .mig => return uint64OfInt (psciMigrate x1.toUInt32)
  | .migInfoType => return psciMigrateInfoType.toUInt64
  | .migInfoUpCpu => return psciMigrateInfoUpCpu
  | .systemOff =>
    psciSystemOff
    psciAssert false
    return 0
  | .systemReset =>
    psciSystemReset
    psciAssert false
    return 0
  | .unknown =>
    logCall (.warn smc_fid)
    return SMC_UNK

end TrustedFirmware.Psci
