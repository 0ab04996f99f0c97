import TrustedFirmware.ContextMgmt.Store
import Mathlib.Logic.Relation

/-!
# Calls about different cores commute

Every core enters the library on its own: its calls look up its own row of `cm_context_info`,
act on the blocks that row points to and on its own registers. What this gives the firmware,
over whole runs (`cmRun_interleavings`): in a run from the zeroed `cm_context_info` that never
installs one non-null context for two slots (`InstallsOnce`, the hypothesis of
`cmRun_distinctBlocks`), the state reached depends only on each core's own sequence of calls
(`coreCalls`), not on how the cores' calls are interleaved. One interleaving reaches a state
exactly when every other one does.

## Shape of the proof

`cmStep_swap` is the diamond: in a state whose slots point to distinct blocks, two adjacent
calls about cores at different positions can be exchanged. Without distinct blocks it fails,
since two cores whose slots share a block write the same memory. `cmRun_boot_indepSwaps` lifts
it along chains of exchanges (`CmOp.IndepSwap`), and `indepSwaps_of_coreCalls` shows that any
two interleavings of the same per-core sequences are joined by such a chain, by moving the
first call of one to the front of the other.

A call is one step here: the model does not split a call into the loads and stores it makes.
-/

namespace TrustedFirmware.ContextMgmt

variable {P : CmPlatform}

/-- The position in `cm_context_info` of the core a call is about. -/
def CmOp.corePos (P : CmPlatform) (op : CmOp) : Nat :=
  (P.platformGetCorePos op.mpidr).toNat

/-- Two calls about cores at different positions. -/
def CmOp.Independent (P : CmPlatform) (a b : CmOp) : Prop :=
  a.corePos P ≠ b.corePos P

instance (a b : CmOp) : Decidable (CmOp.Independent P a b) :=
  decidable_of_iff (a.corePos P ≠ b.corePos P) Iff.rfl

theorem CmOp.Independent.symm {a b : CmOp} (h : CmOp.Independent P a b) :
    CmOp.Independent P b a :=
  Ne.symm h

/-- The calls of `ops` about the core at position `k`, in their order. A call is about the core
`CmOp.mpidr` names: the issuing core for the save, restore and return calls, the core passed for
`cm_get_context`, `cm_set_context` and `cm_init_exception_stack`, so a `cm_set_context` that one
core makes for another core's slot is among the target core's calls. -/
def coreCalls (P : CmPlatform) (k : Nat) (ops : List CmOp) : List CmOp :=
  ops.filter fun op => op.corePos P = k

theorem CmOp.cases_usesContext (op : CmOp) :
    (∃ mpidr s, op = .getContext mpidr s) ∨ (∃ mpidr context s, op = .setContext mpidr context s) ∨
      op.usesContext := by
  cases op <;> simp [CmOp.usesContext]

/-! ## One exchange -/

section swap

variable {m m₁ m' : CmState P} {x y v w : UInt64} {s t : UInt32}
  {f g : UInt64 → CpuContext → CoreRegs → Except CmFault (CpuContext × CoreRegs)}

theorem cmSetContext_eq_ok_iff :
    cmSetContext P m x v s = .ok m' ↔ ∃ i, slotIndex P x s = .ok i ∧ m' =
      { m with cmContextInfo :=
          Function.update m.cmContextInfo i.1 (Function.update (m.cmContextInfo i.1) i.2 v) } := by
  unfold cmSetContext
  cases slotIndex P x s <;> simp [Except.map, eq_comm]

theorem cmStep_getContext_eq_ok_iff :
    cmStep P m (.getContext x s) = .ok m' ↔ (∃ i, slotIndex P x s = .ok i) ∧ m' = m := by
  simp only [cmStep, cmGetContext]
  cases slotIndex P x s <;> simp [Except.map, eq_comm]

theorem slotIndex_row {i : Fin P.PLATFORM_CORE_COUNT × Fin 2} (h : slotIndex P x s = .ok i) :
    (i.1 : Nat) = (P.platformGetCorePos x).toNat :=
  (slotIndex_eq_ok_iff.mp h).2.1

/-- A lookup reads only its own row of `cm_context_info`. -/
theorem cmGetContext_update_row {i : Fin P.PLATFORM_CORE_COUNT}
    (hi : (i : Nat) ≠ (P.platformGetCorePos y).toNat) (row : Fin 2 → UInt64) :
    cmGetContext P { m with cmContextInfo := Function.update m.cmContextInfo i row } y t =
      cmGetContext P m y t := by
  unfold cmGetContext
  cases hj : slotIndex P y t with
  | error e => rfl
  | ok j =>
    have hji : j.1 ≠ i := fun h => hi (h ▸ slotIndex_row hj)
    simp [Except.map, Function.update_noteq hji]

/-- With distinct blocks, the contexts of cores at different positions are different blocks. -/
theorem cmGetContext_ne_of_distinct (hd : DistinctBlocks m)
    (hxy : (P.platformGetCorePos x).toNat ≠ (P.platformGetCorePos y).toNat) {p q : UInt64}
    (hp : cmGetContext P m x s = .ok p) (hq : cmGetContext P m y t = .ok q) (hn : p ≠ NULL) :
    p ≠ q := by
  obtain ⟨i, hi, rfl⟩ := cmGetContext_eq_ok_iff.mp hp
  obtain ⟨j, hj, rfl⟩ := cmGetContext_eq_ok_iff.mp hq
  intro heq
  rw [← slotIndex_row hi, ← slotIndex_row hj, (hd _ _ _ _ hn heq).1] at hxy
  exact hxy rfl

/-- Two calls through `withContext` about cores at different positions: their blocks differ,
and so do their cores. -/
theorem withContext_swap (hd : DistinctBlocks m)
    (hxy : (P.platformGetCorePos x).toNat ≠ (P.platformGetCorePos y).toNat)
    (h₁ : withContext P m x s f = .ok m₁) (h₂ : withContext P m₁ y t g = .ok m') :
    ∃ m₂, withContext P m y t g = .ok m₂ ∧ withContext P m₂ x s f = .ok m' := by
  obtain ⟨p, hp, hpn, c, r, hf, rfl⟩ := withContext_eq_ok_iff.mp h₁
  obtain ⟨q, hq, hqn, d, u, hg, rfl⟩ := withContext_eq_ok_iff.mp h₂
  have hpq : p ≠ q := cmGetContext_ne_of_distinct hd hxy hp hq hpn
  have hx : x ≠ y := fun h => hxy (h ▸ rfl)
  simp only [Function.update_noteq hpq.symm, Function.update_noteq hx.symm] at hg
  have hq' : cmGetContext P m y t = .ok q := hq
  refine ⟨_, withContext_of_act_ok hq' hqn hg, withContext_eq_ok_iff.mpr ⟨p, hp, hpn, c, r, ?_, ?_⟩⟩
  · simpa only [Function.update_noteq hpq, Function.update_noteq hx] using hf
  · simp only [Function.update_comm hpq, Function.update_comm hx]

/-- `cm_set_context`, then a call through `withContext` about a core at another position. -/
theorem cmSetContext_withContext_swap
    (hxy : (P.platformGetCorePos x).toNat ≠ (P.platformGetCorePos y).toNat)
    (h₁ : cmSetContext P m x v s = .ok m₁) (h₂ : withContext P m₁ y t g = .ok m') :
    ∃ m₂, withContext P m y t g = .ok m₂ ∧ cmSetContext P m₂ x v s = .ok m' := by
  obtain ⟨i, hi, rfl⟩ := cmSetContext_eq_ok_iff.mp h₁
  obtain ⟨q, hq, hqn, d, u, hg, rfl⟩ := withContext_eq_ok_iff.mp h₂
  rw [cmGetContext_update_row ((slotIndex_row hi).trans_ne hxy)] at hq
  exact ⟨_, withContext_of_act_ok hq hqn hg, cmSetContext_eq_ok_iff.mpr ⟨i, hi, rfl⟩⟩

/-- A call through `withContext`, then `cm_set_context` for a core at another position. -/
theorem withContext_cmSetContext_swap
    (hxy : (P.platformGetCorePos x).toNat ≠ (P.platformGetCorePos y).toNat)
    (h₁ : withContext P m y t g = .ok m₁) (h₂ : cmSetContext P m₁ x v s = .ok m') :
    ∃ m₂, cmSetContext P m x v s = .ok m₂ ∧ withContext P m₂ y t g = .ok m' := by
  obtain ⟨q, hq, hqn, d, u, hg, rfl⟩ := withContext_eq_ok_iff.mp h₁
  obtain ⟨i, hi, rfl⟩ := cmSetContext_eq_ok_iff.mp h₂
  exact ⟨_, cmSetContext_eq_ok_iff.mpr ⟨i, hi, rfl⟩,
    withContext_of_act_ok ((cmGetContext_update_row ((slotIndex_row hi).trans_ne hxy) _).trans hq)
      hqn hg⟩

/-- Two `cm_set_context`s for cores at different positions write different rows. -/
theorem cmSetContext_swap
    (hxy : (P.platformGetCorePos x).toNat ≠ (P.platformGetCorePos y).toNat)
    (h₁ : cmSetContext P m x v s = .ok m₁) (h₂ : cmSetContext P m₁ y w t = .ok m') :
    ∃ m₂, cmSetContext P m y w t = .ok m₂ ∧ cmSetContext P m₂ x v s = .ok m' := by
  obtain ⟨i, hi, rfl⟩ := cmSetContext_eq_ok_iff.mp h₁
  obtain ⟨j, hj, rfl⟩ := cmSetContext_eq_ok_iff.mp h₂
  have hij : i.1 ≠ j.1 := fun h => hxy ((slotIndex_row hi).symm.trans (h ▸ slotIndex_row hj))
  refine ⟨_, cmSetContext_eq_ok_iff.mpr ⟨j, hj, rfl⟩, cmSetContext_eq_ok_iff.mpr ⟨i, hi, ?_⟩⟩
  simp only [Function.update_noteq hij, Function.update_noteq hij.symm, Function.update_comm hij]

/-- `cm_get_context` changes nothing and its outcome does not depend on the state, so it
commutes with every call. -/
theorem cmStep_getContext_swap {b : CmOp} (h₁ : cmStep P m (.getContext x s) = .ok m₁)
    (h₂ : cmStep P m₁ b = .ok m') :
    ∃ m₂, cmStep P m b = .ok m₂ ∧ cmStep P m₂ (.getContext x s) = .ok m' := by
  obtain ⟨hi, rfl⟩ := cmStep_getContext_eq_ok_iff.mp h₁
  exact ⟨m', h₂, cmStep_getContext_eq_ok_iff.mpr ⟨hi, rfl⟩⟩

theorem cmStep_swap_getContext {a : CmOp} (h₁ : cmStep P m a = .ok m₁)
    (h₂ : cmStep P m₁ (.getContext y t) = .ok m') :
    ∃ m₂, cmStep P m (.getContext y t) = .ok m₂ ∧ cmStep P m₂ a = .ok m' := by
  obtain ⟨hj, rfl⟩ := cmStep_getContext_eq_ok_iff.mp h₂
  exact ⟨m, cmStep_getContext_eq_ok_iff.mpr ⟨hj, rfl⟩, h₁⟩

/-- The diamond: in a state whose slots point to distinct blocks, two adjacent calls about
cores at different positions can be exchanged. -/
theorem cmStep_swap {a b : CmOp} (hd : DistinctBlocks m) (hab : CmOp.Independent P a b)
    (h₁ : cmStep P m a = .ok m₁) (h₂ : cmStep P m₁ b = .ok m') :
    ∃ m₂, cmStep P m b = .ok m₂ ∧ cmStep P m₂ a = .ok m' := by
  rcases CmOp.cases_usesContext a with ⟨x, s, rfl⟩ | ⟨x, v, s, rfl⟩ | ha
  · exact cmStep_getContext_swap h₁ h₂
  · rcases CmOp.cases_usesContext b with ⟨y, t, rfl⟩ | ⟨y, w, t, rfl⟩ | hb
    · exact cmStep_swap_getContext h₁ h₂
    · exact cmSetContext_swap hab h₁ h₂
    · obtain ⟨g, -, hg⟩ := @cmStep_eq_withContext P b hb
      simp only [hg] at h₂ ⊢
      exact cmSetContext_withContext_swap hab h₁ h₂
  · obtain ⟨f, -, hf⟩ := @cmStep_eq_withContext P a ha
    rcases CmOp.cases_usesContext b with ⟨y, t, rfl⟩ | ⟨y, w, t, rfl⟩ | hb
    · exact cmStep_swap_getContext h₁ h₂
    · simp only [hf] at h₁ ⊢
      exact withContext_cmSetContext_swap hab.symm h₁ h₂
    · obtain ⟨g, -, hg⟩ := @cmStep_eq_withContext P b hb
      simp only [hf, hg] at h₁ h₂ ⊢
      exact withContext_swap hd hab h₁ h₂

end swap

theorem cmRun_pair_eq_ok_iff {m m' : CmState P} {a b : CmOp} :
    cmRun P m [a, b] = .ok m' ↔ ∃ m₁, cmStep P m a = .ok m₁ ∧ cmStep P m₁ b = .ok m' := by
  simp only [cmRun_cons_eq_ok_iff, cmRun_nil, Except.ok.injEq, exists_eq_right]

theorem cmRun_swap {m m' : CmState P} {a b : CmOp} (hd : DistinctBlocks m)
    (hab : CmOp.Independent P a b) : cmRun P m [a, b] = .ok m' ↔ cmRun P m [b, a] = .ok m' := by
  rw [cmRun_pair_eq_ok_iff, cmRun_pair_eq_ok_iff]
  exact ⟨fun ⟨_, h₁, h₂⟩ => cmStep_swap hd hab h₁ h₂,
    fun ⟨_, h₁, h₂⟩ => cmStep_swap hd hab.symm h₁ h₂⟩

/-! ## Chains of exchanges -/

/-- `ops'` is `ops` with two adjacent calls about cores at different positions exchanged. -/
inductive CmOp.IndepSwap (P : CmPlatform) : List CmOp → List CmOp → Prop
  | swap (pre : List CmOp) {a b : CmOp} (suf : List CmOp) (hab : CmOp.Independent P a b) :
      CmOp.IndepSwap P (pre ++ a :: b :: suf) (pre ++ b :: a :: suf)

theorem CmOp.IndepSwap.mem_iff {ops ops' : List CmOp} (h : CmOp.IndepSwap P ops ops')
    (op : CmOp) : op ∈ ops' ↔ op ∈ ops := by
  cases h
  simp [or_left_comm]

theorem CmOp.IndepSwap.cons {ops ops' : List CmOp} (h : CmOp.IndepSwap P ops ops') (c : CmOp) :
    CmOp.IndepSwap P (c :: ops) (c :: ops') := by
  cases h with
  | swap pre suf hab => exact .swap (c :: pre) suf hab

theorem indepSwaps_cons {ops ops' : List CmOp}
    (h : Relation.ReflTransGen (CmOp.IndepSwap P) ops ops') (c : CmOp) :
    Relation.ReflTransGen (CmOp.IndepSwap P) (c :: ops) (c :: ops') :=
  Relation.ReflTransGen.lift (List.cons c) (fun _ _ hs => hs.cons c) h

/-- One exchange, anywhere in a run from the zeroed `cm_context_info` that installs each
non-null context for one slot only. -/
theorem cmRun_boot_indepSwap (mem : UInt64 → CpuContext) (regs : UInt64 → CoreRegs)
    {ops ops' : List CmOp} (hs : CmOp.IndepSwap P ops ops') (hfresh : InstallsOnce P ops)
    (m : CmState P) :
    cmRun P (.boot mem regs) ops = .ok m ↔ cmRun P (.boot mem regs) ops' = .ok m := by
  obtain ⟨pre, suf, hab⟩ := hs
  rw [cmRun_append_eq_ok_iff, cmRun_append_eq_ok_iff]
  refine exists_congr fun m₀ => and_congr_right fun h₀ => ?_
  have hd : DistinctBlocks m₀ :=
    cmRun_boot_distinctBlocks (hfresh.mono fun op h => List.mem_append_left _ h) h₀
  show cmRun P m₀ ([_, _] ++ suf) = .ok m ↔ cmRun P m₀ ([_, _] ++ suf) = .ok m
  rw [cmRun_append_eq_ok_iff, cmRun_append_eq_ok_iff]
  exact exists_congr fun m₁ => and_congr_left' (cmRun_swap hd hab)

/-- The run lemma: a chain of exchanges changes no state a run reaches. -/
theorem cmRun_boot_indepSwaps (mem : UInt64 → CpuContext) (regs : UInt64 → CoreRegs)
    {ops ops' : List CmOp} (h : Relation.ReflTransGen (CmOp.IndepSwap P) ops ops') :
    InstallsOnce P ops → ∀ m : CmState P,
      (cmRun P (.boot mem regs) ops = .ok m ↔ cmRun P (.boot mem regs) ops' = .ok m) := by
  induction h using Relation.ReflTransGen.head_induction_on with
  | refl => exact fun _ _ => Iff.rfl
  | head hs _ ih =>
    intro hfresh m
    exact (cmRun_boot_indepSwap mem regs hs hfresh m).trans
      (ih (hfresh.mono fun op h => (hs.mem_iff op).mp h) m)

/-- A call moves to the right past calls about cores at other positions. -/
theorem indepSwaps_bubble {a : CmOp} {suf : List CmOp} :
    ∀ {pre : List CmOp}, (∀ c ∈ pre, CmOp.Independent P a c) →
      Relation.ReflTransGen (CmOp.IndepSwap P) (a :: (pre ++ suf)) (pre ++ a :: suf)
  | [], _ => .refl
  | c :: pre, h =>
    .head (CmOp.IndepSwap.swap [] (pre ++ suf) (h c (List.mem_cons_self _ _)))
      (indepSwaps_cons (indepSwaps_bubble fun c' hc' => h c' (List.mem_cons_of_mem _ hc')) c)

/-- Any two interleavings of the same per-core sequences of calls are joined by a chain of
exchanges of adjacent calls about cores at different positions. -/
theorem indepSwaps_of_coreCalls {ops ops' : List CmOp}
    (h : ∀ k, coreCalls P k ops = coreCalls P k ops') :
    Relation.ReflTransGen (CmOp.IndepSwap P) ops ops' := by
  induction ops generalizing ops' with
  | nil =>
    cases ops' with
    | nil => exact .refl
    | cons c _ => simpa [coreCalls] using h (c.corePos P)
  | cons a rest ih =>
    have ha := h (a.corePos P)
    simp only [coreCalls, List.filter_cons, decide_eq_true_eq, if_true] at ha
    obtain ⟨pre, suf, rfl, hpre, -, hsuf⟩ := List.filter_eq_cons_iff.mp ha.symm
    have hrest : ∀ k, coreCalls P k rest = coreCalls P k (pre ++ suf) := by
      intro k
      by_cases hak : a.corePos P = k
      · subst hak
        have hnil : coreCalls P (a.corePos P) pre = [] := List.filter_eq_nil_iff.mpr hpre
        simp only [coreCalls, List.filter_append] at hnil ⊢
        rw [hnil, hsuf, List.nil_append]
      · simpa [coreCalls, List.filter_append, hak] using h k
    exact (indepSwaps_cons (ih hrest) a).trans
      (indepSwaps_bubble fun c hc hac => hpre c hc (by simpa [eq_comm] using hac))

/-- Over every run from the zeroed `cm_context_info` that installs each non-null context for
one slot only: any two interleavings of the same per-core sequences of calls reach the same
states, and one reaches a state exactly when the other does. The calls are grouped by the core
they are about (`coreCalls`), not by the core that issues them: a `cm_set_context` one core
makes for another core's slot counts among the target core's calls. -/
theorem cmRun_interleavings (P : CmPlatform) (mem : UInt64 → CpuContext)
    (regs : UInt64 → CoreRegs) {ops ops' : List CmOp} (hfresh : InstallsOnce P ops)
    (hcores : ∀ k, coreCalls P k ops = coreCalls P k ops') (m : CmState P) :
    cmRun P (.boot mem regs) ops = .ok m ↔ cmRun P (.boot mem regs) ops' = .ok m :=
  cmRun_boot_indepSwaps mem regs (indepSwaps_of_coreCalls hcores) hfresh m

/-- Two cores, at positions 0 and 1, whose save and restore routines copy nothing. -/
def twoPlatform : CmPlatform :=
  { onePlatform with
    PLATFORM_CORE_COUNT := 2
    platformGetCorePos := fun mpidr => if mpidr = 0 then 0 else 1 }

/-- Core 0 installs and saves its secure context while core 1 installs its own and sets up its
exception stack. -/
def twoCoresRun : List CmOp :=
  [.setContext 0 0x1000 SECURE, .setContext 1 0x2000 SECURE, .el3SysregsContextSave 0 SECURE,
    .initExceptionStack 1 SECURE]

/-- The same calls, with core 1's first. -/
def twoCoresRun' : List CmOp :=
  [.setContext 1 0x2000 SECURE, .initExceptionStack 1 SECURE, .setContext 0 0x1000 SECURE,
    .el3SysregsContextSave 0 SECURE]

theorem cmRun_interleavings_two_cores :
    InstallsOnce twoPlatform twoCoresRun ∧
    (∀ k, coreCalls twoPlatform k twoCoresRun = coreCalls twoPlatform k twoCoresRun') ∧
    (∀ m, cmRun twoPlatform (.boot default default) twoCoresRun = .ok m ↔
      cmRun twoPlatform (.boot default default) twoCoresRun' = .ok m) ∧
    ∃ m, cmRun twoPlatform (.boot default default) twoCoresRun = .ok m ∧
      cmRun twoPlatform (.boot default default) twoCoresRun' = .ok m := by
  have hfresh : InstallsOnce twoPlatform twoCoresRun := by
    intro mpidr mpidr' context s s' _ h₁ h₂
    simp [twoCoresRun] at h₁ h₂
    rcases h₁ with ⟨rfl, rfl, rfl⟩ | ⟨rfl, rfl, rfl⟩ <;> simp_all
  have hcores : ∀ k, coreCalls twoPlatform k twoCoresRun = coreCalls twoPlatform k twoCoresRun' := by
    rintro (_ | _ | k) <;>
      simp [coreCalls, twoCoresRun, twoCoresRun', List.filter_cons, CmOp.corePos, CmOp.mpidr,
        twoPlatform]
  have hiff := cmRun_interleavings twoPlatform default default hfresh hcores
  obtain ⟨m, hm⟩ : ∃ m, cmRun twoPlatform (.boot default default) twoCoresRun = .ok m := ⟨_, rfl⟩
  exact ⟨hfresh, hcores, hiff, m, hm, (hiff m).mp hm⟩

end TrustedFirmware.ContextMgmt
