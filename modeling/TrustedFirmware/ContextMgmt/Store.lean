import TrustedFirmware.ContextMgmt.Frame

/-!
# The context store over whole runs

What the store is for (`lastSet`): a lookup of (core position, security state) answers the
context pointer of the most recent `cm_set_context` for that core position and security state,
or `NULL` if there was none. `cmRun_cmContextInfo` shows that `cm_context_info` after any run
is exactly this history: `cmStep_cmContextInfo` is the step lemma (only `cm_set_context`
writes a slot, and only its own), and the run lemma follows by induction over the calls.
`cmRun_ne_outOfBounds` is the matching fact for bounds: no call of a run indexes past the
array while the platform maps the cores it names into range.
-/

namespace TrustedFirmware.ContextMgmt

variable {P : CmPlatform}

/-- The pointer that slot `(linear_id, security_state)` holds after `op`, given the one it
held before. -/
def CmOp.slotAfter (pos : UInt64 → UInt32) (linear_id security_state : Nat) (old : UInt64) :
    CmOp → UInt64
  | .setContext mpidr context s =>
    if (pos mpidr).toNat = linear_id ∧ s.toNat = security_state then context else old
  | _ => old

/-- The context pointer passed by the most recent `cm_set_context(mpidr, context, s)` of `ops`
with `platform_get_core_pos(mpidr) = linear_id` and `s = security_state`, or `NULL`. -/
def lastSet (pos : UInt64 → UInt32) (ops : List CmOp) (linear_id security_state : Nat) :
    UInt64 :=
  ops.foldl (fun old op => op.slotAfter pos linear_id security_state old) NULL

/-- A `cm_set_context` shows through its own slot and no other. -/
theorem lastSet_append_setContext (pos : UInt64 → UInt32) (ops : List CmOp)
    (mpidr context : UInt64) (s : UInt32) (linear_id security_state : Nat) :
    lastSet pos (ops ++ [.setContext mpidr context s]) linear_id security_state =
      if (pos mpidr).toNat = linear_id ∧ s.toNat = security_state then context
      else lastSet pos ops linear_id security_state := by
  simp [lastSet, CmOp.slotAfter]

theorem cmSetContext_cmContextInfo {m m' : CmState P} {mpidr context : UInt64} {s : UInt32}
    (h : cmSetContext P m mpidr context s = .ok m') (i : Fin P.PLATFORM_CORE_COUNT)
    (t : Fin 2) : m'.cmContextInfo i t =
      if (P.platformGetCorePos mpidr).toNat = i ∧ s.toNat = t then context
      else m.cmContextInfo i t := by
  unfold cmSetContext at h
  cases hi : slotIndex P mpidr s with
  | error e => simp [hi, Except.map] at h
  | ok j =>
    obtain ⟨⟨a, ha⟩, ⟨b, hb⟩⟩ := j
    obtain ⟨-, rfl, rfl⟩ := slotIndex_eq_ok_iff.mp hi
    simp only [hi, Except.map, Except.ok.injEq] at h
    subst h
    have e1 : (P.platformGetCorePos mpidr).toNat = i ↔ i = ⟨_, ha⟩ := by
      rw [Fin.ext_iff]; exact eq_comm
    have e2 : s.toNat = t ↔ t = ⟨_, hb⟩ := by rw [Fin.ext_iff]; exact eq_comm
    simp only [e1, e2]
    by_cases h1 : i = ⟨_, ha⟩
    · subst h1; by_cases h2 : t = ⟨_, hb⟩ <;> simp [h2]
    · simp [h1]

/-- The step lemma: a call changes slot `(i, t)` only if it is a `cm_set_context` for it. -/
theorem cmStep_cmContextInfo {m m' : CmState P} {op : CmOp} (h : cmStep P m op = .ok m')
    (i : Fin P.PLATFORM_CORE_COUNT) (t : Fin 2) :
    m'.cmContextInfo i t = op.slotAfter P.platformGetCorePos i t (m.cmContextInfo i t) := by
  cases hu : op.usesContext
  · cases op <;> simp [CmOp.usesContext] at hu
    · simp only [cmStep, Except.map] at h
      split at h
      · cases h
      · cases h; rfl
    · exact cmSetContext_cmContextInfo h i t
  · obtain ⟨act, -, heq⟩ := @cmStep_eq_withContext P op hu
    obtain ⟨p, hp, -⟩ := withContext_eq_ok_iff.mp ((heq m).symm.trans h)
    have hinfo : m'.cmContextInfo = m.cmContextInfo :=
      (withContext_frame hp ((heq m).symm.trans h)).1
    cases op <;> simp_all [CmOp.usesContext, CmOp.slotAfter]

/-- The run lemma: after a run, every slot holds what the run's `cm_set_context`s put there. -/
theorem cmRun_cmContextInfo {m m' : CmState P} {ops : List CmOp} (h : cmRun P m ops = .ok m')
    (i : Fin P.PLATFORM_CORE_COUNT) (t : Fin 2) :
    m'.cmContextInfo i t =
      ops.foldl (fun old op => op.slotAfter P.platformGetCorePos i t old)
        (m.cmContextInfo i t) := by
  induction ops generalizing m with
  | nil => simp_all
  | cons op ops ih =>
    obtain ⟨m₁, h₁, h₂⟩ := cmRun_cons_eq_ok_iff.mp h
    rw [List.foldl_cons, ← cmStep_cmContextInfo h₁]
    exact ih h₂

/-- No run indexes `cm_context_info` out of bounds while every core it names is in range. -/
theorem cmRun_ne_outOfBounds (m : CmState P) (ops : List CmOp)
    (hpos : ∀ op ∈ ops, (P.platformGetCorePos op.mpidr).toNat < P.PLATFORM_CORE_COUNT) :
    cmRun P m ops ≠ .error .outOfBounds := by
  induction ops generalizing m with
  | nil => simp
  | cons op ops ih =>
    simp only [cmRun]
    cases h : cmStep P m op with
    | error e =>
      have := cmStep_ne_outOfBounds m (hpos op (List.mem_cons_self _ _))
      simp_all [Except.bind]
    | ok m₁ => exact ih m₁ fun op' h' => hpos op' (List.mem_cons_of_mem _ h')

/-- The run lemma for faults: from any state, a run whose cores are in range and whose security
states pass the `assert` completes, or stops at the failed `assert` of a call that uses a
context; `cm_get_context` and `cm_set_context` never stop it. -/
theorem cmRun_ok_or_stops (m : CmState P) (ops : List CmOp)
    (hpos : ∀ op ∈ ops, (P.platformGetCorePos op.mpidr).toNat < P.PLATFORM_CORE_COUNT)
    (hsec : ∀ op ∈ ops, op.securityState ≤ NON_SECURE) :
    (∃ m', cmRun P m ops = .ok m') ∨ ∃ pre op rest m₀, ops = pre ++ op :: rest ∧
      cmRun P m pre = .ok m₀ ∧ op.usesContext ∧ cmStep P m₀ op = .error .assertion := by
  induction ops generalizing m with
  | nil => exact .inl ⟨m, rfl⟩
  | cons op ops ih =>
    obtain ⟨hop, hpos⟩ := List.forall_mem_cons.mp hpos
    obtain ⟨hs, hsec⟩ := List.forall_mem_cons.mp hsec
    cases h : cmStep P m op with
    | ok m₁ =>
      rcases ih m₁ hpos hsec with ⟨m', h'⟩ | ⟨pre, op', rest, m₀, rfl, h₀, hu, he⟩
      · exact .inl ⟨m', cmRun_cons_eq_ok_iff.mpr ⟨m₁, h, h'⟩⟩
      · exact .inr ⟨op :: pre, op', rest, m₀, rfl, cmRun_cons_eq_ok_iff.mpr ⟨m₁, h, h₀⟩, hu, he⟩
    | error e =>
      cases e with
      | outOfBounds => exact absurd h (cmStep_ne_outOfBounds m hop)
      | assertion =>
        cases hu : op.usesContext
        · obtain ⟨m', h'⟩ := cmStep_ok_of_not_usesContext m hu hop hs
          cases h.symm.trans h'
        · exact .inr ⟨[], op, ops, m, rfl, rfl, hu, h⟩

/-- The law of the context store, over every run from the zeroed `cm_context_info` in which the
platform maps every core named into `[0, PLATFORM_CORE_COUNT)`: no access leaves the array;
with every security state `SECURE` or `NON_SECURE` the run completes or stops at the failed
`assert` of a call that uses a context, so every `cm_set_context` and `cm_get_context` of it
completes; and in the state a run reaches, a lookup of a core and security state answers the
pointer of the most recent `cm_set_context` for a core at the same position and the same
security state, or `NULL` if there was none. A lookup inside the run answers the same of the
calls before it, the run up to it being a run of its own. -/
theorem cm_context_store_law (P : CmPlatform) (mem : UInt64 → CpuContext)
    (regs : UInt64 → CoreRegs) (ops : List CmOp)
    (hpos : ∀ op ∈ ops, (P.platformGetCorePos op.mpidr).toNat < P.PLATFORM_CORE_COUNT) :
    cmRun P (.boot mem regs) ops ≠ .error .outOfBounds ∧
    ((∀ op ∈ ops, op.securityState ≤ NON_SECURE) →
      (∃ m, cmRun P (.boot mem regs) ops = .ok m) ∨ ∃ pre op rest m, ops = pre ++ op :: rest ∧
        cmRun P (.boot mem regs) pre = .ok m ∧ op.usesContext ∧
        cmStep P m op = .error .assertion) ∧
    ∀ m, cmRun P (.boot mem regs) ops = .ok m → ∀ mpidr security_state,
      (P.platformGetCorePos mpidr).toNat < P.PLATFORM_CORE_COUNT →
      security_state ≤ NON_SECURE →
      cmGetContext P m mpidr security_state =
        .ok (lastSet P.platformGetCorePos ops (P.platformGetCorePos mpidr).toNat
          security_state.toNat) := by
  refine ⟨cmRun_ne_outOfBounds _ ops hpos, cmRun_ok_or_stops _ ops hpos,
    fun m hrun mpidr s hi hs => ?_⟩
  have hslot : slotIndex P mpidr s = .ok (⟨_, hi⟩, ⟨_, toNat_lt_two hs⟩) :=
    slotIndex_eq_ok_iff.mpr ⟨hs, rfl, rfl⟩
  simp only [cmGetContext, hslot, Except.map, cmRun_cmContextInfo hrun]
  rfl

/-- The one core of `onePlatform` installs its secure context, looks it up and saves its EL3
registers into it. -/
def setGetSaveRun : List CmOp :=
  [.setContext 0 0x1000 SECURE, .getContext 0 SECURE, .el3SysregsContextSave 0 SECURE]

theorem cm_context_store_law_one_core :
    (∀ op ∈ setGetSaveRun,
      (onePlatform.platformGetCorePos op.mpidr).toNat < onePlatform.PLATFORM_CORE_COUNT) ∧
    (∀ op ∈ setGetSaveRun, op.securityState ≤ NON_SECURE) ∧
    ∃ m, cmRun onePlatform (.boot default default) setGetSaveRun = .ok m ∧
      cmGetContext onePlatform m 0 SECURE = .ok 0x1000 ∧
      cmGetContext onePlatform m 0 NON_SECURE = .ok NULL := by
  have hpos : ∀ op ∈ setGetSaveRun,
      (onePlatform.platformGetCorePos op.mpidr).toNat < onePlatform.PLATFORM_CORE_COUNT := by
    decide
  have hsec : ∀ op ∈ setGetSaveRun, op.securityState ≤ NON_SECURE := by decide
  obtain ⟨-, -, hlaw⟩ := cm_context_store_law onePlatform default default setGetSaveRun hpos
  obtain ⟨m, hm⟩ : ∃ m, cmRun onePlatform (.boot default default) setGetSaveRun = .ok m :=
    ⟨_, rfl⟩
  exact ⟨hpos, hsec, m, hm, hlaw m hm 0 SECURE (by decide) (by decide),
    hlaw m hm 0 NON_SECURE (by decide) (by decide)⟩

/-! ## Distinct blocks along a run -/

/-- A slot's pointer after a run is the one it held before, or was installed in that slot by
one of the run's `cm_set_context`s. -/
theorem foldl_slotAfter_cases (pos : UInt64 → UInt32) (linear_id security_state : Nat)
    (ops : List CmOp) (old : UInt64) :
    let p := ops.foldl (fun old op => op.slotAfter pos linear_id security_state old) old
    p = old ∨ ∃ mpidr s, CmOp.setContext mpidr p s ∈ ops ∧ (pos mpidr).toNat = linear_id ∧
      s.toNat = security_state := by
  induction ops generalizing old with
  | nil => exact .inl rfl
  | cons op ops ih =>
    rcases ih (op.slotAfter pos linear_id security_state old) with h | ⟨mpidr, s, hm, hs⟩
    · simp only [List.foldl_cons, h]
      cases op
      case setContext mpidr context s =>
        simp only [CmOp.slotAfter]
        split
        · exact .inr ⟨mpidr, s, List.mem_cons_self _ _, ‹_ ∧ _›⟩
        · exact .inl rfl
      all_goals exact .inl rfl
    · exact .inr ⟨mpidr, s, List.mem_cons_of_mem _ hm, hs⟩

/-- After a run from the zeroed `cm_context_info`, a slot holds `NULL` or a pointer one of the
run's `cm_set_context`s installed in that slot. -/
theorem lastSet_cases (pos : UInt64 → UInt32) (ops : List CmOp) (linear_id security_state : Nat) :
    lastSet pos ops linear_id security_state = NULL ∨ ∃ mpidr s,
      CmOp.setContext mpidr (lastSet pos ops linear_id security_state) s ∈ ops ∧
        (pos mpidr).toNat = linear_id ∧ s.toNat = security_state :=
  foldl_slotAfter_cases pos linear_id security_state ops NULL

/-- The calls `ops` never install one non-null pointer for two different (core position,
security state) slots. -/
def InstallsOnce (P : CmPlatform) (ops : List CmOp) : Prop :=
  ∀ mpidr mpidr' context s s', context ≠ NULL →
    CmOp.setContext mpidr context s ∈ ops → CmOp.setContext mpidr' context s' ∈ ops →
    (P.platformGetCorePos mpidr).toNat = (P.platformGetCorePos mpidr').toNat ∧ s = s'

theorem InstallsOnce.mono {ops ops' : List CmOp} (h : InstallsOnce P ops)
    (hsub : ∀ op ∈ ops', op ∈ ops) : InstallsOnce P ops' :=
  fun mpidr mpidr' context s s' hn h₁ h₂ => h mpidr mpidr' context s s' hn (hsub _ h₁) (hsub _ h₂)

/-- A run from the zeroed `cm_context_info` that installs each non-null pointer for one slot
only reaches a state whose slots point to distinct blocks. -/
theorem cmRun_boot_distinctBlocks {mem : UInt64 → CpuContext} {regs : UInt64 → CoreRegs}
    {ops : List CmOp} (hfresh : InstallsOnce P ops) {m : CmState P}
    (hrun : cmRun P (.boot mem regs) ops = .ok m) : DistinctBlocks m := by
  intro i j s t hn heq
  have hinfo : ∀ i t, m.cmContextInfo i t = lastSet P.platformGetCorePos ops i t :=
    cmRun_cmContextInfo hrun
  simp only [hinfo] at hn heq
  rcases lastSet_cases P.platformGetCorePos ops i s with h₁ | ⟨mp₁, s₁, hm₁, hi₁, hs₁⟩
  · exact absurd h₁ hn
  rcases lastSet_cases P.platformGetCorePos ops j t with h₂ | ⟨mp₂, s₂, hm₂, hj₂, ht₂⟩
  · exact absurd (heq.trans h₂) hn
  rw [← heq] at hm₂
  obtain ⟨hpos, rfl⟩ := hfresh mp₁ mp₂ _ s₁ s₂ hn hm₁ hm₂
  exact ⟨Fin.ext (hi₁.symm.trans (hpos.trans hj₂)), Fin.ext (hs₁.symm.trans ht₂)⟩

/-- From the zeroed `cm_context_info`, in a run that never installs one non-null pointer for
two different (core position, security state) slots, the slots point to pairwise distinct
blocks in the state the run reaches. Every prefix of such a run is one, so this holds all along
the run, and with it the hypothesis of the frame theorem of `Frame`. -/
theorem cmRun_distinctBlocks (P : CmPlatform) (mem : UInt64 → CpuContext)
    (regs : UInt64 → CoreRegs) (ops : List CmOp)
    (hfresh : ∀ mpidr mpidr' context s s', context ≠ NULL →
      CmOp.setContext mpidr context s ∈ ops → CmOp.setContext mpidr' context s' ∈ ops →
      (P.platformGetCorePos mpidr).toNat = (P.platformGetCorePos mpidr').toNat ∧ s = s') :
    ∀ m, cmRun P (.boot mem regs) ops = .ok m → DistinctBlocks m :=
  fun _ hrun => cmRun_boot_distinctBlocks hfresh hrun

/-- The one core of `onePlatform` installs a secure and a non-secure context and saves the
secure one's EL3 registers. -/
def twoWorldsRun : List CmOp :=
  [.setContext 0 0x1000 SECURE, .setContext 0 0x2000 NON_SECURE, .el3SysregsContextSave 0 SECURE]

theorem cmRun_distinctBlocks_two_worlds :
    (∀ mpidr mpidr' context s s', context ≠ NULL →
      CmOp.setContext mpidr context s ∈ twoWorldsRun →
      CmOp.setContext mpidr' context s' ∈ twoWorldsRun →
      (onePlatform.platformGetCorePos mpidr).toNat =
        (onePlatform.platformGetCorePos mpidr').toNat ∧ s = s') ∧
    (∃ m, cmRun onePlatform (.boot default default) twoWorldsRun = .ok m) ∧
    ∀ m, cmRun onePlatform (.boot default default) twoWorldsRun = .ok m → DistinctBlocks m := by
  have hfresh : ∀ mpidr mpidr' context s s', context ≠ NULL →
      CmOp.setContext mpidr context s ∈ twoWorldsRun →
      CmOp.setContext mpidr' context s' ∈ twoWorldsRun →
      (onePlatform.platformGetCorePos mpidr).toNat =
        (onePlatform.platformGetCorePos mpidr').toNat ∧ s = s' := by
    intro mpidr mpidr' context s s' _ h₁ h₂
    simp [twoWorldsRun] at h₁ h₂
    rcases h₁ with ⟨rfl, rfl, rfl⟩ | ⟨rfl, rfl, rfl⟩ <;> simp_all
  exact ⟨hfresh, ⟨_, rfl⟩, cmRun_distinctBlocks onePlatform default default twoWorldsRun hfresh⟩

end TrustedFirmware.ContextMgmt
