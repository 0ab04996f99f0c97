import TrustedFirmware.ContextMgmt.Run

/-!
# What an operation on a context touches

Each of the seven operations that act on a context reads and writes the block that the slot of
its core and security state points to, the registers of that core, and nothing else. With the
slots pointing to pairwise distinct blocks (`DistinctBlocks`), no other core's and no other
world's snapshot changes. `withContext_frame` and `withContext_reads_block` prove this once for
`withContext`; `cmStep_eq_withContext` carries it to every call.

What `cm_set_el3_eret_context` and `cm_set_next_eret_context` are for together
(`eret_context_prepared`): after both, `SP_EL3` points at the block of the core's slot, and the
block holds the return state just programmed.
-/

namespace TrustedFirmware.ContextMgmt

variable {P : CmPlatform}

/-- The non-null slots of `cm_context_info` point to pairwise distinct blocks. -/
def DistinctBlocks (m : CmState P) : Prop :=
  ∀ i j s t, m.cmContextInfo i s ≠ NULL → m.cmContextInfo i s = m.cmContextInfo j t →
    i = j ∧ s = t

theorem cmGetContext_congr {m₂ m : CmState P} (h : m₂.cmContextInfo = m.cmContextInfo)
    (mpidr : UInt64) (security_state : UInt32) :
    cmGetContext P m₂ mpidr security_state = cmGetContext P m mpidr security_state := by
  simp [cmGetContext, h]

section withContext

variable {m m' : CmState P} {mpidr : UInt64} {security_state : UInt32} {p : UInt64}
  {act : UInt64 → CpuContext → CoreRegs → Except CmFault (CpuContext × CoreRegs)}

/-- `withContext` keeps `cm_context_info`, and writes only the block of the slot it looked up
and the registers of its own core. -/
theorem withContext_frame (hp : cmGetContext P m mpidr security_state = .ok p)
    (h : withContext P m mpidr security_state act = .ok m') :
    m'.cmContextInfo = m.cmContextInfo ∧ (∀ q, q ≠ p → m'.mem q = m.mem q) ∧
      ∀ core, core ≠ mpidr → m'.regs core = m.regs core := by
  obtain ⟨p', hp', -, c, r, -, rfl⟩ := withContext_eq_ok_iff.mp h
  obtain rfl : p' = p := Except.ok.inj (hp'.symm.trans hp)
  exact ⟨rfl, fun q hq => Function.update_noteq hq _ _,
    fun core hc => Function.update_noteq hc _ _⟩

/-- What `withContext` does to the block it looked up and to its core's registers depends on
nothing but `cm_context_info`, that block and those registers. -/
theorem withContext_reads_block (m₂ : CmState P) (hinfo : m₂.cmContextInfo = m.cmContextInfo)
    (hregs : m₂.regs mpidr = m.regs mpidr) (hp : cmGetContext P m mpidr security_state = .ok p)
    (hmem : m₂.mem p = m.mem p) :
    (withContext P m₂ mpidr security_state act).map (fun m' => (m'.mem p, m'.regs mpidr)) =
      (withContext P m mpidr security_state act).map (fun m' => (m'.mem p, m'.regs mpidr)) := by
  unfold withContext
  rw [cmGetContext_congr hinfo, hp]
  by_cases hn : p = NULL
  · simp [hn, bind, Except.bind, throw, throwThe, MonadExceptOf.throw, Except.map]
  · simp only [bind, Except.bind, hn, if_false, pure, Except.pure, hmem, hregs]
    cases act p (m.mem p) (m.regs mpidr) <;> simp [Except.map]

/-- `withContext` with an action that cannot fail. -/
theorem withContext_of_act_ok (hp : cmGetContext P m mpidr security_state = .ok p)
    (hn : p ≠ NULL) {c : CpuContext} {r : CoreRegs}
    (hact : act p (m.mem p) (m.regs mpidr) = .ok (c, r)) :
    withContext P m mpidr security_state act =
      .ok { m with mem := Function.update m.mem p c, regs := Function.update m.regs mpidr r } :=
  withContext_eq_ok_iff.mpr ⟨p, hp, hn, c, r, hact, rfl⟩

end withContext

theorem eretState_apply (state : El3Reg → UInt64) (entrypoint : UInt64) (spsr scr : UInt32)
    (offset : El3Reg) :
    eretState state entrypoint spsr scr offset =
      if offset = .CTX_SPSR_EL3 then spsr.toUInt64 else if offset = .CTX_ELR_EL3 then entrypoint
      else if offset = .CTX_SCR_EL3 then scr.toUInt64 else state offset := by
  cases offset <;> simp [eretState, writeCtxReg, Function.update_apply]

/-- For every core and security state whose slot is set, in a state whose slots point to
distinct blocks: every operation on that context reads only the slot's block and the core's
registers, writes nothing but them, and leaves every other (core, world) pair's block as it
was; `cm_set_el3_eret_context` changes exactly the `SPSR_EL3`, `ELR_EL3` and `SCR_EL3` entries
of the block and `cm_init_exception_stack` exactly its exception stack pointer. -/
theorem context_op_touches_only_its_block (m : CmState P) (hd : DistinctBlocks m)
    (mpidr : UInt64) (security_state : UInt32) {p : UInt64}
    (hp : cmGetContext P m mpidr security_state = .ok p) (hnull : p ≠ NULL) :
    (∀ op : CmOp, op.usesContext → op.mpidr = mpidr → op.securityState = security_state →
      (∀ m₂ : CmState P, m₂.cmContextInfo = m.cmContextInfo → m₂.regs mpidr = m.regs mpidr →
        m₂.mem p = m.mem p →
        (cmStep P m₂ op).map (fun m' => (m'.mem p, m'.regs mpidr)) =
          (cmStep P m op).map (fun m' => (m'.mem p, m'.regs mpidr))) ∧
      ∀ m', cmStep P m op = .ok m' →
        m'.cmContextInfo = m.cmContextInfo ∧ (∀ q, q ≠ p → m'.mem q = m.mem q) ∧
        (∀ core, core ≠ mpidr → m'.regs core = m.regs core) ∧
        ∀ i s, m.cmContextInfo i s ≠ NULL → slotIndex P mpidr security_state ≠ .ok (i, s) →
          m'.mem (m.cmContextInfo i s) = m.mem (m.cmContextInfo i s)) ∧
    (∀ entrypoint spsr scr, ∃ m', cmSetEl3EretContext P m mpidr security_state entrypoint spsr scr
        = .ok m' ∧ m'.cmContextInfo = m.cmContextInfo ∧ m'.regs = m.regs ∧
      (∀ q, q ≠ p → m'.mem q = m.mem q) ∧ (m'.mem p).sysregs = (m.mem p).sysregs ∧
      ∀ offset, (m'.mem p).el3state offset =
        if offset = .CTX_SPSR_EL3 then spsr.toUInt64 else if offset = .CTX_ELR_EL3 then entrypoint
        else if offset = .CTX_SCR_EL3 then scr.toUInt64 else (m.mem p).el3state offset) ∧
    ∃ m', cmInitExceptionStack P m mpidr security_state = .ok m' ∧
      m'.cmContextInfo = m.cmContextInfo ∧ m'.regs = m.regs ∧
      (∀ q, q ≠ p → m'.mem q = m.mem q) ∧ (m'.mem p).sysregs = (m.mem p).sysregs ∧
      ∀ offset, (m'.mem p).el3state offset = if offset = .CTX_EXCEPTION_SP
        then P.getExceptionStack mpidr else (m.mem p).el3state offset := by
  refine ⟨fun op hop hm hs => ?_, fun e spsr scr => ?_, ?_⟩
  · obtain ⟨act, -, heq⟩ := @cmStep_eq_withContext P op hop
    subst hm hs
    refine ⟨fun m₂ hinfo hregs hmem => by
      rw [heq, heq]; exact withContext_reads_block m₂ hinfo hregs hp hmem, fun m' h => ?_⟩
    obtain ⟨hinfo, hmem, hregs⟩ := withContext_frame hp ((heq m).symm.trans h)
    refine ⟨hinfo, hmem, hregs, fun i s hn hne => hmem _ fun heq' => hne ?_⟩
    obtain ⟨i', hi', rfl⟩ := cmGetContext_eq_ok_iff.mp hp
    obtain ⟨rfl, rfl⟩ := hd i i'.1 s i'.2 hn heq'
    exact hi'
  · refine ⟨_, withContext_of_act_ok hp hnull rfl, rfl, by simp, fun q hq => ?_, by simp, ?_⟩
    · exact Function.update_noteq hq _ _
    · simp [eretState_apply]
  · refine ⟨_, withContext_of_act_ok hp hnull rfl, rfl, by simp, fun q hq => ?_, by simp, ?_⟩
    · exact Function.update_noteq hq _ _
    · simp [writeCtxReg, Function.update_apply]

/-- The one core of `onePlatform` with its secure context at `0x1000`. -/
def oneCoreState : CmState onePlatform :=
  ⟨fun _ s => if s = 0 then 0x1000 else NULL, default, default⟩

/-- One core with its secure context at `0x1000` and its non-secure one at `0x2000`. -/
def twoBlockState (P : CmPlatform) : CmState P :=
  ⟨fun _ s => if s = 0 then 0x1000 else 0x2000, default, default⟩

theorem context_op_touches_only_its_block_one_core :
    DistinctBlocks (twoBlockState onePlatform) ∧
    cmGetContext onePlatform (twoBlockState onePlatform) 0 SECURE = .ok 0x1000 ∧
    (0x1000 : UInt64) ≠ NULL ∧
    ∃ m', cmStep onePlatform (twoBlockState onePlatform) (.el3SysregsContextSave 0 SECURE) =
      .ok m' ∧ m'.mem 0x2000 = (twoBlockState onePlatform).mem 0x2000 := by
  have hd : DistinctBlocks (twoBlockState onePlatform) := by unfold DistinctBlocks; decide
  have hp : cmGetContext onePlatform (twoBlockState onePlatform) 0 SECURE = .ok 0x1000 := rfl
  have hn : (0x1000 : UInt64) ≠ NULL := by decide
  obtain ⟨m', hm'⟩ : ∃ m', cmStep onePlatform (twoBlockState onePlatform)
      (.el3SysregsContextSave 0 SECURE) = .ok m' := ⟨_, rfl⟩
  obtain ⟨-, -, -, hother⟩ := ((context_op_touches_only_its_block (twoBlockState onePlatform) hd
    0 SECURE hp hn).1 (.el3SysregsContextSave 0 SECURE) rfl rfl rfl).2 m' hm'
  have hslot : slotIndex onePlatform 0 SECURE ≠ .ok (⟨0, by decide⟩, 1) := fun h =>
    absurd (slotIndex_eq_ok_iff.mp h).2.2 (by decide)
  exact ⟨hd, hp, hn, m', hm', hother _ 1 (by decide) hslot⟩

section eret

variable {m : CmState P} {mpidr : UInt64} {security_state : UInt32} {p : UInt64}

theorem cmSetEl3EretContext_ok (hp : cmGetContext P m mpidr security_state = .ok p)
    (hnull : p ≠ NULL) (entrypoint : UInt64) (spsr scr : UInt32) :
    ∃ m', cmSetEl3EretContext P m mpidr security_state entrypoint spsr scr = .ok m' ∧
      m'.cmContextInfo = m.cmContextInfo ∧ m'.regs = m.regs ∧
      (m'.mem p).el3state = eretState (m.mem p).el3state entrypoint spsr scr :=
  ⟨_, withContext_of_act_ok hp hnull rfl, rfl, by simp, by simp⟩

theorem cmSetNextEretContext_ok (hp : cmGetContext P m mpidr security_state = .ok p)
    (hnull : p ≠ NULL) (hsp : (m.regs mpidr).spsel = MODE_SP_EL0) :
    ∃ m', cmSetNextEretContext P m mpidr security_state = .ok m' ∧ m'.mem p = m.mem p ∧
      (m'.regs mpidr).spEl3 = p ∧ (m'.regs mpidr).spsel = MODE_SP_EL0 :=
  ⟨_, withContext_of_act_ok hp hnull (if_pos hsp), by simp, by simp, by simp⟩

end eret

/-- `cm_set_el3_eret_context` then `cm_set_next_eret_context`, for a core whose slot is set and
that runs on `SP_EL0`: both succeed, `SP_EL3` ends pointing at the slot's block, `SPSel` selects
`SP_EL0` again, and the block holds the return address, `SPSR_EL3` and `SCR_EL3` just
programmed, which is where the next `ERET` takes them from. -/
theorem eret_context_prepared (m : CmState P) (mpidr : UInt64) (security_state : UInt32)
    {p : UInt64} (hp : cmGetContext P m mpidr security_state = .ok p) (hnull : p ≠ NULL)
    (hsp : (m.regs mpidr).spsel = MODE_SP_EL0) (entrypoint : UInt64) (spsr scr : UInt32) :
    ∃ m', cmRun P m [.setEl3EretContext mpidr security_state entrypoint spsr scr,
        .setNextEretContext mpidr security_state] = .ok m' ∧
      (m'.regs mpidr).spEl3 = p ∧ (m'.regs mpidr).spsel = MODE_SP_EL0 ∧
      (m'.mem p).el3state .CTX_ELR_EL3 = entrypoint ∧
      (m'.mem p).el3state .CTX_SPSR_EL3 = spsr.toUInt64 ∧
      (m'.mem p).el3state .CTX_SCR_EL3 = scr.toUInt64 := by
  obtain ⟨m₁, h₁, hinfo₁, hregs₁, hel3₁⟩ := cmSetEl3EretContext_ok hp hnull entrypoint spsr scr
  obtain ⟨m₂, h₂, hmem₂, hsp₂, hsel₂⟩ :=
    cmSetNextEretContext_ok ((cmGetContext_congr hinfo₁ _ _).trans hp) hnull (hregs₁ ▸ hsp)
  refine ⟨m₂, by simp only [cmRun, cmStep, h₁, h₂, Except.bind], hsp₂, hsel₂, ?_⟩
  simp [hmem₂, hel3₁, eretState_apply]

theorem eret_context_prepared_one_core :
    cmGetContext onePlatform oneCoreState 0 SECURE = .ok 0x1000 ∧ (0x1000 : UInt64) ≠ NULL ∧
    (oneCoreState.regs 0).spsel = MODE_SP_EL0 ∧
    ∃ m', cmRun onePlatform oneCoreState [.setEl3EretContext 0 SECURE 0x8000000 0x3c9 0x501,
        .setNextEretContext 0 SECURE] = .ok m' ∧
      (m'.regs 0).spEl3 = 0x1000 ∧ (m'.regs 0).spsel = MODE_SP_EL0 ∧
      (m'.mem 0x1000).el3state .CTX_ELR_EL3 = 0x8000000 ∧
      (m'.mem 0x1000).el3state .CTX_SPSR_EL3 = (0x3c9 : UInt32).toUInt64 ∧
      (m'.mem 0x1000).el3state .CTX_SCR_EL3 = (0x501 : UInt32).toUInt64 :=
  ⟨rfl, by decide, rfl,
    eret_context_prepared oneCoreState 0 SECURE rfl (by decide) rfl 0x8000000 0x3c9 0x501⟩

end TrustedFirmware.ContextMgmt
