import TrustedFirmware.ContextMgmt.Interleave

/-!
# World switches

What `cm_el1_sysregs_context_save` and `cm_el1_sysregs_context_restore` are for: a core leaves
one security state by saving its EL1 system registers into that state's context, and enters
the other by restoring the other's. `switchRun` is a sequence of such switches of one core, each
world running in between and leaving the core's registers as it likes. What it guarantees
(`switchRun_restores`): after any sequence of switches, the world now running finds the EL1
registers it had when it last left, provided the core's two slots point to two different blocks
and the platform's restore routine loads back the EL1 registers its save routine stored.

The core's system registers are one file (`CoreRegs.sysregs`), which the EL3 routines reach as
well; the EL1 group is the set `el1` of its indices that the EL1 routines own, and both the law
and the guarantee are over that set only.

`worldSwitch_spec` is the step lemma, everything one switch does; the run lemma follows by
induction over the switches, since a switch changes no slot of `cm_context_info`.
-/

namespace TrustedFirmware.ContextMgmt

variable {P : CmPlatform}

/-- A sequence of world switches of core `mpidr`, from world `a` to world `b` and back: the
running world leaves the core's registers as the next element of `rs`, then
`cm_el1_sysregs_context_save` saves them into its context and `cm_el1_sysregs_context_restore`
loads the other world's. -/
def switchRun (P : CmPlatform) (mpidr : UInt64) :
    CmState P → UInt32 → UInt32 → List CoreRegs → Except CmFault (CmState P)
  | m, _, _, [] => .ok m
  | m, a, b, r :: rs =>
    (cmRun P { m with regs := Function.update m.regs mpidr r }
      [.el1SysregsContextSave mpidr a, .el1SysregsContextRestore mpidr b]).bind
      fun m' => switchRun P mpidr m' b a rs

section el1

variable {m : CmState P} {mpidr : UInt64} {security_state : UInt32} {p : UInt64}

theorem cmEl1SysregsContextSave_ok (hp : cmGetContext P m mpidr security_state = .ok p)
    (hn : p ≠ NULL) :
    ∃ m', cmEl1SysregsContextSave P m mpidr security_state = .ok m' ∧
      m'.cmContextInfo = m.cmContextInfo ∧ m'.regs = m.regs ∧
      (∀ q, q ≠ p → m'.mem q = m.mem q) ∧
      (m'.mem p).sysregs = P.el1SysregsContextSave (m.regs mpidr) (m.mem p).sysregs :=
  ⟨_, withContext_of_act_ok hp hn rfl, rfl, by simp, fun _ hq => Function.update_noteq hq _ _,
    by simp⟩

theorem cmEl1SysregsContextRestore_ok (hp : cmGetContext P m mpidr security_state = .ok p)
    (hn : p ≠ NULL) :
    ∃ m', cmEl1SysregsContextRestore P m mpidr security_state = .ok m' ∧
      m'.cmContextInfo = m.cmContextInfo ∧ m'.mem = m.mem ∧
      m'.regs mpidr = P.el1SysregsContextRestore (m.mem p).sysregs (m.regs mpidr) :=
  ⟨_, withContext_of_act_ok hp hn rfl, rfl, by simp, by simp⟩

end el1

/-- The step lemma: one switch from `a` to `b`, whose contexts are two different blocks, keeps
`cm_context_info`, stores the core's EL1 registers into `a`'s block, leaves `b`'s block as it
was, and loads the core's registers from `b`'s block. -/
theorem worldSwitch_spec (m : CmState P) {mpidr : UInt64} {a b : UInt32} {p q : UInt64}
    (hp : cmGetContext P m mpidr a = .ok p) (hq : cmGetContext P m mpidr b = .ok q)
    (hpn : p ≠ NULL) (hqn : q ≠ NULL) (hpq : p ≠ q) :
    ∃ m', cmRun P m [.el1SysregsContextSave mpidr a, .el1SysregsContextRestore mpidr b] =
        .ok m' ∧ m'.cmContextInfo = m.cmContextInfo ∧
      (m'.mem p).sysregs = P.el1SysregsContextSave (m.regs mpidr) (m.mem p).sysregs ∧
      m'.mem q = m.mem q ∧
      m'.regs mpidr = P.el1SysregsContextRestore (m.mem q).sysregs (m.regs mpidr) := by
  obtain ⟨m₁, h₁, hinfo₁, hregs₁, hmem₁, hsave₁⟩ := cmEl1SysregsContextSave_ok hp hpn
  obtain ⟨m₂, h₂, hinfo₂, hmem₂, hload₂⟩ :=
    cmEl1SysregsContextRestore_ok ((cmGetContext_congr hinfo₁ _ _).trans hq) hqn
  refine ⟨m₂, cmRun_pair_eq_ok_iff.mpr ⟨m₁, h₁, h₂⟩, hinfo₂.trans hinfo₁, ?_, ?_, ?_⟩
  · rw [hmem₂, hsave₁]
  · rw [hmem₂, hmem₁ q hpq.symm]
  · rw [hload₂, hmem₁ q hpq.symm, hregs₁]

theorem switchRun_cons {m m₁ : CmState P} {mpidr : UInt64} {a b : UInt32} {r : CoreRegs}
    {rs : List CoreRegs} (h : cmRun P { m with regs := Function.update m.regs mpidr r }
      [.el1SysregsContextSave mpidr a, .el1SysregsContextRestore mpidr b] = .ok m₁) :
    switchRun P mpidr m a b (r :: rs) = switchRun P mpidr m₁ b a rs := by
  rw [switchRun, h]
  rfl

/-- The run lemma: for a core whose two slots point to two different blocks, on a platform
whose EL1 restore routine loads back the registers of the EL1 group `el1` that its save routine
stored, every sequence of switches succeeds and leaves the world now running with the values of
the EL1 registers it had when it last left. -/
theorem switchRun_restores (el1 : Nat → Prop)
    (hlaw : ∀ r s r' i, el1 i →
      (P.el1SysregsContextRestore (P.el1SysregsContextSave r s) r').sysregs i = r.sysregs i)
    {mpidr : UInt64} {a b : UInt32} {p q : UInt64} (hpn : p ≠ NULL) (hqn : q ≠ NULL)
    (hpq : p ≠ q) (rs : List CoreRegs) (r r' : CoreRegs) :
    ∀ m : CmState P, cmGetContext P m mpidr a = .ok p → cmGetContext P m mpidr b = .ok q →
      ∃ m', switchRun P mpidr m a b (rs ++ [r, r']) = .ok m' ∧
        ∀ i, el1 i → (m'.regs mpidr).sysregs i = r.sysregs i := by
  induction rs generalizing a b p q with
  | nil =>
    intro m hp hq
    obtain ⟨m₁, h₁, hinfo₁, hsave₁, -, -⟩ :=
      worldSwitch_spec { m with regs := Function.update m.regs mpidr r } hp hq hpn hqn hpq
    obtain ⟨m₂, h₂, -, -, -, hload₂⟩ :=
      worldSwitch_spec { m₁ with regs := Function.update m₁.regs mpidr r' }
        ((cmGetContext_congr hinfo₁ _ _).trans hq)
        ((cmGetContext_congr hinfo₁ _ _).trans hp) hqn hpn hpq.symm
    refine ⟨m₂, by rw [List.nil_append, switchRun_cons h₁, switchRun_cons h₂]; rfl,
      fun i hi => ?_⟩
    simp [hload₂, hsave₁, hlaw _ _ _ i hi]
  | cons r₀ rs ih =>
    intro m hp hq
    obtain ⟨m₁, h₁, hinfo₁, -⟩ :=
      worldSwitch_spec { m with regs := Function.update m.regs mpidr r₀ } hp hq hpn hqn hpq
    obtain ⟨m', h', hregs⟩ := ih hqn hpn hpq.symm m₁ ((cmGetContext_congr hinfo₁ _ _).trans hq)
      ((cmGetContext_congr hinfo₁ _ _).trans hp)
    exact ⟨m', by rw [List.cons_append, switchRun_cons h₁]; exact h', hregs⟩

/-- A platform whose EL1 routines own the system registers below 8: save copies them into the
context, restore copies them back, and both leave the other registers alone. -/
def el1CopyPlatform : CmPlatform :=
  { onePlatform with
    el1SysregsContextSave := fun r sysregs i => if i < 8 then r.sysregs i else sysregs i
    el1SysregsContextRestore := fun sysregs r =>
      { r with sysregs := fun i => if i < 8 then sysregs i else r.sysregs i } }

theorem switchRun_restores_two_worlds :
    (∀ r s r' i, i < 8 → (el1CopyPlatform.el1SysregsContextRestore
      (el1CopyPlatform.el1SysregsContextSave r s) r').sysregs i = r.sysregs i) ∧
    (0x2000 : UInt64) ≠ NULL ∧ (0x1000 : UInt64) ≠ NULL ∧ (0x2000 : UInt64) ≠ 0x1000 ∧
    cmGetContext el1CopyPlatform (twoBlockState el1CopyPlatform) 0 NON_SECURE = .ok 0x2000 ∧
    cmGetContext el1CopyPlatform (twoBlockState el1CopyPlatform) 0 SECURE = .ok 0x1000 ∧
    ∃ m', switchRun el1CopyPlatform 0 (twoBlockState el1CopyPlatform) NON_SECURE SECURE
        ([default] ++ [⟨UInt64.ofNat, 0, 0⟩, default]) = .ok m' ∧
      ∀ i, i < 8 → (m'.regs 0).sysregs i = (⟨UInt64.ofNat, 0, 0⟩ : CoreRegs).sysregs i := by
  have hlaw : ∀ r s r' i, i < 8 → (el1CopyPlatform.el1SysregsContextRestore
      (el1CopyPlatform.el1SysregsContextSave r s) r').sysregs i = r.sysregs i := by
    intro r s r' i hi
    simp [el1CopyPlatform, hi]
  have hns : cmGetContext el1CopyPlatform (twoBlockState el1CopyPlatform) 0 NON_SECURE =
    .ok 0x2000 := rfl
  have hs : cmGetContext el1CopyPlatform (twoBlockState el1CopyPlatform) 0 SECURE = .ok 0x1000 :=
    rfl
  have h₁ : (0x2000 : UInt64) ≠ NULL := by decide
  have h₂ : (0x1000 : UInt64) ≠ NULL := by decide
  have h₃ : (0x2000 : UInt64) ≠ 0x1000 := by decide
  exact ⟨hlaw, h₁, h₂, h₃, hns, hs, switchRun_restores (· < 8) hlaw h₁ h₂ h₃ [default]
    ⟨UInt64.ofNat, 0, 0⟩ default (twoBlockState el1CopyPlatform) hns hs⟩

end TrustedFirmware.ContextMgmt
