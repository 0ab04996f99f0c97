import TrustedFirmware.ContextMgmt.Defs

/-!
# Runs of the context management API

A run is a finite sequence of calls of the library's nine functions, issued by any cores in any
order (`CmOp`); `cmRun` executes it from a state until a call faults. Every call but
`cm_get_context` and `cm_set_context` goes through `withContext` with an action that does not
depend on the state (`cmStep_eq_withContext`), so the facts about `withContext` hold of all
seven at once.
-/

namespace TrustedFirmware.ContextMgmt

/-- A call of the library's API. `mpidr` is the core the call is about: the argument of
`cm_get_context`, `cm_set_context` and `cm_init_exception_stack`, and for the others the core
that issues the call. -/
inductive CmOp
  | getContext (mpidr : UInt64) (security_state : UInt32)
  | setContext (mpidr context : UInt64) (security_state : UInt32)
  | el3SysregsContextSave (mpidr : UInt64) (security_state : UInt32)
  | el3SysregsContextRestore (mpidr : UInt64) (security_state : UInt32)
  | el1SysregsContextSave (mpidr : UInt64) (security_state : UInt32)
  | el1SysregsContextRestore (mpidr : UInt64) (security_state : UInt32)
  | setEl3EretContext (mpidr : UInt64) (security_state : UInt32) (entrypoint : UInt64)
      (spsr scr : UInt32)
  | setNextEretContext (mpidr : UInt64) (security_state : UInt32)
  | initExceptionStack (mpidr : UInt64) (security_state : UInt32)
  deriving Repr

/-- The core a call looks its slot up for. -/
def CmOp.mpidr : CmOp → UInt64
  | getContext m _ | setContext m _ _ | el3SysregsContextSave m _ | el3SysregsContextRestore m _
  | el1SysregsContextSave m _ | el1SysregsContextRestore m _ | setEl3EretContext m _ _ _ _
  | setNextEretContext m _ | initExceptionStack m _ => m

/-- The security state a call names. -/
def CmOp.securityState : CmOp → UInt32
  | getContext _ s | setContext _ _ s | el3SysregsContextSave _ s | el3SysregsContextRestore _ s
  | el1SysregsContextSave _ s | el1SysregsContextRestore _ s | setEl3EretContext _ s _ _ _
  | setNextEretContext _ s | initExceptionStack _ s => s

/-- The calls that look up a context and act on the block it points to. -/
def CmOp.usesContext : CmOp → Bool
  | getContext .. | setContext .. => false
  | _ => true

variable {P : CmPlatform}

/-- One call, on the state it finds; `cm_get_context` leaves the state as it is. -/
def cmStep (P : CmPlatform) (m : CmState P) : CmOp → Except CmFault (CmState P)
  | .getContext mpidr s => (cmGetContext P m mpidr s).map fun _ => m
  | .setContext mpidr ctx s => cmSetContext P m mpidr ctx s
  | .el3SysregsContextSave mpidr s => cmEl3SysregsContextSave P m mpidr s
  | .el3SysregsContextRestore mpidr s => cmEl3SysregsContextRestore P m mpidr s
  | .el1SysregsContextSave mpidr s => cmEl1SysregsContextSave P m mpidr s
  | .el1SysregsContextRestore mpidr s => cmEl1SysregsContextRestore P m mpidr s
  | .setEl3EretContext mpidr s e spsr scr => cmSetEl3EretContext P m mpidr s e spsr scr
  | .setNextEretContext mpidr s => cmSetNextEretContext P m mpidr s
  | .initExceptionStack mpidr s => cmInitExceptionStack P m mpidr s

/-- A run: the calls one after another, until one faults. -/
def cmRun (P : CmPlatform) : CmState P → List CmOp → Except CmFault (CmState P)
  | m, [] => .ok m
  | m, op :: ops => (cmStep P m op).bind fun m' => cmRun P m' ops

@[simp] theorem cmRun_nil (m : CmState P) : cmRun P m [] = .ok m := rfl

theorem cmRun_cons_eq_ok_iff {m m' : CmState P} {op : CmOp} {ops : List CmOp} :
    cmRun P m (op :: ops) = .ok m' ↔ ∃ m₁, cmStep P m op = .ok m₁ ∧ cmRun P m₁ ops = .ok m' := by
  simp only [cmRun]
  cases cmStep P m op <;> simp [Except.bind]

/-- A run of `l₁ ++ l₂` is a run of `l₁`, then of `l₂` from where it stopped. -/
theorem cmRun_append_eq_ok_iff {m m' : CmState P} {l₁ l₂ : List CmOp} :
    cmRun P m (l₁ ++ l₂) = .ok m' ↔ ∃ m₁, cmRun P m l₁ = .ok m₁ ∧ cmRun P m₁ l₂ = .ok m' := by
  induction l₁ generalizing m with
  | nil => simp
  | cons op l₁ ih =>
    simp only [List.cons_append, cmRun_cons_eq_ok_iff, ih]
    exact ⟨fun ⟨m₀, h₀, m₁, h₁, h₂⟩ => ⟨m₁, ⟨m₀, h₀, h₁⟩, h₂⟩,
      fun ⟨m₁, ⟨m₀, h₀, h₁⟩, h₂⟩ => ⟨m₀, h₀, m₁, h₁, h₂⟩⟩

/-- The calls that use a context are `withContext` with an action of their own arguments only,
and no action leaves the array. -/
theorem cmStep_eq_withContext {op : CmOp} (h : op.usesContext) :
    ∃ act, (∀ p c r, act p c r ≠ .error .outOfBounds) ∧
      ∀ m : CmState P, cmStep P m op = withContext P m op.mpidr op.securityState act := by
  cases op <;> simp [CmOp.usesContext] at h <;>
    refine ⟨_, ?_, fun m => by simp only [cmStep]; rfl⟩ <;> intros <;> (try split) <;> simp

/-- A call whose core position is in range never indexes `cm_context_info` out of bounds. -/
theorem cmStep_ne_outOfBounds (m : CmState P) {op : CmOp}
    (h : (P.platformGetCorePos op.mpidr).toNat < P.PLATFORM_CORE_COUNT) :
    cmStep P m op ≠ .error .outOfBounds := by
  have hslot : slotIndex P op.mpidr op.securityState ≠ .error .outOfBounds :=
    slotIndex_ne_outOfBounds h
  cases hu : op.usesContext
  · cases op <;> simp [CmOp.usesContext] at hu <;>
      simp only [cmStep, cmGetContext, cmSetContext, CmOp.mpidr, CmOp.securityState] at hslot ⊢ <;>
      revert hslot <;> cases slotIndex P _ _ <;> simp [Except.map]
  · obtain ⟨act, hact, heq⟩ := @cmStep_eq_withContext P op hu
    rw [heq]
    exact withContext_ne_outOfBounds hslot hact

/-- `cm_get_context` and `cm_set_context` stop a core only at the `assert` on the security state
or out of bounds: with both in range they complete, from any state. -/
theorem cmStep_ok_of_not_usesContext (m : CmState P) {op : CmOp} (hu : op.usesContext = false)
    (hpos : (P.platformGetCorePos op.mpidr).toNat < P.PLATFORM_CORE_COUNT)
    (hs : op.securityState ≤ NON_SECURE) : ∃ m', cmStep P m op = .ok m' := by
  have hslot : slotIndex P op.mpidr op.securityState = .ok (⟨_, hpos⟩, ⟨_, toNat_lt_two hs⟩) :=
    slotIndex_eq_ok_iff.mpr ⟨hs, rfl, rfl⟩
  cases op with
  | getContext mpidr s =>
    exact ⟨m, by rw [cmStep, cmGetContext, show slotIndex P mpidr s = _ from hslot]; rfl⟩
  | setContext mpidr context s =>
    exact ⟨_, by rw [cmStep, cmSetContext, show slotIndex P mpidr s = _ from hslot]; rfl⟩
  | _ => cases hu

/-- A platform with one core whose save and restore routines copy nothing; it shows that the
hypotheses of the theorems on runs and frames can be met. -/
def onePlatform : CmPlatform where
  PLATFORM_CORE_COUNT := 1
  platformGetCorePos _ := 0
  getExceptionStack _ := 0x80000
  el3SysregsContextSave _ state := state
  el3SysregsContextRestore _ r := r
  el1SysregsContextSave _ sysregs := sysregs
  el1SysregsContextRestore _ r := r

end TrustedFirmware.ContextMgmt
