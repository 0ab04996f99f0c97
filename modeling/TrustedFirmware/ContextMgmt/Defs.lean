import Mathlib.Logic.Function.Basic
import Mathlib.Tactic.Common

/-!
# The context management library

Reference: `context_mgmt.c`.

`cm_context_info` keeps, for every core, two pointers to `cpu_context` blocks: one for the
secure and one for the non-secure security state. `cm_get_context` and `cm_set_context` read
and write these slots; every other operation looks a slot up, asserts that it is set, and then
saves, restores or programs the block it points to.

The model is the debug build: a failed `assert` stops the core (`CmFault.assertion`). An index
of `cm_context_info` past `PLATFORM_CORE_COUNT` is undefined behaviour in C; the model stops
there with `CmFault.outOfBounds`, so that "every access is in bounds" is a statement about
runs. Memory holds `cpu_context` blocks by address. The assembly routines that copy system
registers between a core and a block, `platform_get_core_pos` and `get_exception_stack` are
hooks of the platform (`CmPlatform`).
-/

namespace TrustedFirmware.ContextMgmt

/-- `SECURE`, the index of the secure security state. -/
def SECURE : UInt32 := 0

/-- `NON_SECURE`, the index of the non-secure security state. -/
def NON_SECURE : UInt32 := 1

/-- The null pointer. -/
def NULL : UInt64 := 0

/-- `MODE_SP_EL0`: the value of `SPSel` while `SP_EL0` is the stack pointer. -/
def MODE_SP_EL0 : UInt64 := 0

/-- An entry of the `el3_state` group of a `cpu_context`: the four this library writes by
name, and every other entry of the group, by index. -/
inductive El3Reg
  | CTX_SCR_EL3
  | CTX_SPSR_EL3
  | CTX_ELR_EL3
  | CTX_EXCEPTION_SP
  | other (n : Nat)
  deriving DecidableEq, Repr

/-- A `cpu_context` block, as far as this library reaches into it: the `el3_state` group
(`get_el3state_ctx`) and the EL1 system-register group (`get_sysregs_ctx`). -/
structure CpuContext where
  el3state : El3Reg → UInt64
  sysregs : Nat → UInt64
  deriving Inhabited

/-- `write_ctx_reg(state, offset, val)`. -/
def writeCtxReg (state : El3Reg → UInt64) (offset : El3Reg) (val : UInt64) : El3Reg → UInt64 :=
  Function.update state offset val

/-- The registers of one core that the library reads or writes: the system registers the save
and restore routines copy, `SP_EL3` and `SPSel`. -/
structure CoreRegs where
  sysregs : Nat → UInt64
  spEl3 : UInt64
  spsel : UInt64
  deriving Inhabited

/-- What the library takes from the platform and from the assembly routines it calls. -/
structure CmPlatform where
  PLATFORM_CORE_COUNT : Nat
  platformGetCorePos : UInt64 → UInt32
  getExceptionStack : UInt64 → UInt64
  el3SysregsContextSave : CoreRegs → (El3Reg → UInt64) → El3Reg → UInt64
  el3SysregsContextRestore : (El3Reg → UInt64) → CoreRegs → CoreRegs
  el1SysregsContextSave : CoreRegs → (Nat → UInt64) → Nat → UInt64
  el1SysregsContextRestore : (Nat → UInt64) → CoreRegs → CoreRegs

/-- The machine as the library sees it: `cm_context_info`, memory holding `cpu_context` blocks
by address, and the registers of each core, by its MPIDR. -/
structure CmState (P : CmPlatform) where
  cmContextInfo : Fin P.PLATFORM_CORE_COUNT → Fin 2 → UInt64
  mem : UInt64 → CpuContext
  regs : UInt64 → CoreRegs

/-- Why a core stops inside the library. -/
inductive CmFault
  /-- a failed `assert` -/
  | assertion
  /-- an index of `cm_context_info` past its end -/
  | outOfBounds
  deriving DecidableEq, Repr

/-- The state after boot: the BSS, and with it `cm_context_info`, is zeroed (`cm_init` has
nothing left to do). -/
def CmState.boot {P : CmPlatform} (mem : UInt64 → CpuContext) (regs : UInt64 → CoreRegs) :
    CmState P :=
  ⟨fun _ _ => NULL, mem, regs⟩

variable {P : CmPlatform}

theorem toNat_lt_two {s : UInt32} (h : s ≤ NON_SECURE) : s.toNat < 2 := by
  have : s.toNat ≤ 1 := h
  omega

/-- The slot `cm_context_info[platform_get_core_pos(mpidr)].ptr[security_state]`, reached after
`assert(security_state <= NON_SECURE)`, or the fault that reaching it causes. -/
def slotIndex (P : CmPlatform) (mpidr : UInt64) (security_state : UInt32) :
    Except CmFault (Fin P.PLATFORM_CORE_COUNT × Fin 2) :=
  let linear_id := P.platformGetCorePos mpidr
  if hs : security_state ≤ NON_SECURE then
    if hi : linear_id.toNat < P.PLATFORM_CORE_COUNT then
      .ok (⟨linear_id.toNat, hi⟩, ⟨security_state.toNat, toNat_lt_two hs⟩)
    else .error .outOfBounds
  else .error .assertion

/-- `cm_get_context`. -/
def cmGetContext (P : CmPlatform) (m : CmState P) (mpidr : UInt64) (security_state : UInt32) :
    Except CmFault UInt64 :=
  (slotIndex P mpidr security_state).map fun i => m.cmContextInfo i.1 i.2

/-- `cm_set_context`. -/
def cmSetContext (P : CmPlatform) (m : CmState P) (mpidr context : UInt64)
    (security_state : UInt32) : Except CmFault (CmState P) :=
  (slotIndex P mpidr security_state).map fun i =>
    { m with cmContextInfo :=
        Function.update m.cmContextInfo i.1 (Function.update (m.cmContextInfo i.1) i.2 context) }

/-- The shape every operation below shares: `ctx = cm_get_context(mpidr, security_state);
assert(ctx);`, then `act` on `ctx`, the block it points to and the registers of the core
`mpidr`, which returns the new block and registers. -/
def withContext (P : CmPlatform) (m : CmState P) (mpidr : UInt64) (security_state : UInt32)
    (act : UInt64 → CpuContext → CoreRegs → Except CmFault (CpuContext × CoreRegs)) :
    Except CmFault (CmState P) := do
  let ctx ← cmGetContext P m mpidr security_state
  if ctx = NULL then throw .assertion
  let r ← act ctx (m.mem ctx) (m.regs mpidr)
  return { m with mem := Function.update m.mem ctx r.1, regs := Function.update m.regs mpidr r.2 }

/-! ## The operations on a core's context

`mpidr` is the MPIDR of the core that issues the call, what `read_mpidr()` returns there;
`cm_init_exception_stack` takes it as an argument. -/

/-- `cm_el3_sysregs_context_save`. -/
def cmEl3SysregsContextSave (P : CmPlatform) (m : CmState P) (mpidr : UInt64)
    (security_state : UInt32) : Except CmFault (CmState P) :=
  withContext P m mpidr security_state fun _ c r =>
    .ok ({ c with el3state := P.el3SysregsContextSave r c.el3state }, r)

/-- `cm_el3_sysregs_context_restore`. -/
def cmEl3SysregsContextRestore (P : CmPlatform) (m : CmState P) (mpidr : UInt64)
    (security_state : UInt32) : Except CmFault (CmState P) :=
  withContext P m mpidr security_state fun _ c r =>
    .ok (c, P.el3SysregsContextRestore c.el3state r)

/-- `cm_el1_sysregs_context_save`. -/
def cmEl1SysregsContextSave (P : CmPlatform) (m : CmState P) (mpidr : UInt64)
    (security_state : UInt32) : Except CmFault (CmState P) :=
  withContext P m mpidr security_state fun _ c r =>
    .ok ({ c with sysregs := P.el1SysregsContextSave r c.sysregs }, r)

/-- `cm_el1_sysregs_context_restore`. -/
def cmEl1SysregsContextRestore (P : CmPlatform) (m : CmState P) (mpidr : UInt64)
    (security_state : UInt32) : Except CmFault (CmState P) :=
  withContext P m mpidr security_state fun _ c r =>
    .ok (c, P.el1SysregsContextRestore c.sysregs r)

/-- The `el3_state` writes of `cm_set_el3_eret_context`. -/
def eretState (state : El3Reg → UInt64) (entrypoint : UInt64) (spsr scr : UInt32) :
    El3Reg → UInt64 :=
  writeCtxReg (writeCtxReg (writeCtxReg state .CTX_SPSR_EL3 spsr.toUInt64)
    .CTX_ELR_EL3 entrypoint) .CTX_SCR_EL3 scr.toUInt64

/-- `cm_set_el3_eret_context`. -/
def cmSetEl3EretContext (P : CmPlatform) (m : CmState P) (mpidr : UInt64)
    (security_state : UInt32) (entrypoint : UInt64) (spsr scr : UInt32) :
    Except CmFault (CmState P) :=
  withContext P m mpidr security_state fun _ c r =>
    .ok ({ c with el3state := eretState c.el3state entrypoint spsr scr }, r)

/-- `cm_set_next_eret_context`: in the debug build, assert that `SPSel` selects `SP_EL0`; then
point `SP_EL3` at the context and select `SP_EL0` again. -/
def cmSetNextEretContext (P : CmPlatform) (m : CmState P) (mpidr : UInt64)
    (security_state : UInt32) : Except CmFault (CmState P) :=
  withContext P m mpidr security_state fun ctx c r =>
    if r.spsel = MODE_SP_EL0 then .ok (c, { r with spEl3 := ctx, spsel := MODE_SP_EL0 })
    else .error .assertion

/-- `cm_init_exception_stack`. -/
def cmInitExceptionStack (P : CmPlatform) (m : CmState P) (mpidr : UInt64)
    (security_state : UInt32) : Except CmFault (CmState P) :=
  withContext P m mpidr security_state fun _ c r =>
    let state := writeCtxReg c.el3state .CTX_EXCEPTION_SP (P.getExceptionStack mpidr)
    .ok ({ c with el3state := state }, r)

/-! ## Lookup and update lemmas -/

theorem slotIndex_eq_ok_iff {mpidr : UInt64} {security_state : UInt32}
    {i : Fin P.PLATFORM_CORE_COUNT × Fin 2} :
    slotIndex P mpidr security_state = .ok i ↔ security_state ≤ NON_SECURE ∧
      (i.1 : Nat) = (P.platformGetCorePos mpidr).toNat ∧ (i.2 : Nat) = security_state.toNat := by
  obtain ⟨⟨a, ha⟩, ⟨b, hb⟩⟩ := i
  dsimp only [slotIndex]
  split_ifs <;> simp_all [Prod.ext_iff, Fin.ext_iff, eq_comm]
  omega

/-- With the core position in range, reaching a slot never leaves the array. -/
theorem slotIndex_ne_outOfBounds {mpidr : UInt64} {security_state : UInt32}
    (h : (P.platformGetCorePos mpidr).toNat < P.PLATFORM_CORE_COUNT) :
    slotIndex P mpidr security_state ≠ .error .outOfBounds := by
  unfold slotIndex
  split_ifs <;> simp_all

theorem cmGetContext_eq_ok_iff {m : CmState P} {mpidr : UInt64} {security_state : UInt32}
    {p : UInt64} : cmGetContext P m mpidr security_state = .ok p ↔
      ∃ i, slotIndex P mpidr security_state = .ok i ∧ m.cmContextInfo i.1 i.2 = p := by
  unfold cmGetContext
  cases slotIndex P mpidr security_state <;> simp [Except.map]

theorem withContext_eq_ok_iff {m m' : CmState P} {mpidr : UInt64} {security_state : UInt32}
    {act : UInt64 → CpuContext → CoreRegs → Except CmFault (CpuContext × CoreRegs)} :
    withContext P m mpidr security_state act = .ok m' ↔
      ∃ p, cmGetContext P m mpidr security_state = .ok p ∧ p ≠ NULL ∧
        ∃ c r, act p (m.mem p) (m.regs mpidr) = .ok (c, r) ∧ m' =
          { m with mem := Function.update m.mem p c, regs := Function.update m.regs mpidr r } := by
  unfold withContext
  cases cmGetContext P m mpidr security_state with
  | error e => simp [bind, Except.bind]
  | ok p =>
    by_cases hp : p = NULL
    · simp [bind, Except.bind, hp, throw, throwThe, MonadExceptOf.throw]
    · rcases h : act p (m.mem p) (m.regs mpidr) with _ | ⟨c, r⟩ <;>
        simp [bind, Except.bind, hp, h, pure, Except.pure]
      exact ⟨fun h => ⟨c, r, ⟨rfl, rfl⟩, h.symm⟩, fun ⟨_, _, ⟨h1, h2⟩, h3⟩ => h1 ▸ h2 ▸ h3.symm⟩

/-- An operation of this shape faults out of bounds only where the lookup does. -/
theorem withContext_ne_outOfBounds {m : CmState P} {mpidr : UInt64} {security_state : UInt32}
    {act : UInt64 → CpuContext → CoreRegs → Except CmFault (CpuContext × CoreRegs)}
    (hslot : slotIndex P mpidr security_state ≠ .error .outOfBounds)
    (hact : ∀ p c r, act p c r ≠ .error .outOfBounds) :
    withContext P m mpidr security_state act ≠ .error .outOfBounds := by
  unfold withContext cmGetContext
  cases h : slotIndex P mpidr security_state with
  | error e => simp_all [bind, Except.bind, Except.map]
  | ok i =>
    simp only [Except.map, bind, Except.bind]
    split_ifs
    · simp [throw, throwThe, MonadExceptOf.throw]
    · have := hact (m.cmContextInfo i.1 i.2) (m.mem (m.cmContextInfo i.1 i.2)) (m.regs mpidr)
      revert this
      cases act (m.cmContextInfo i.1 i.2) (m.mem (m.cmContextInfo i.1 i.2)) (m.regs mpidr) <;>
        simp [pure, Except.pure]

end TrustedFirmware.ContextMgmt
