import TrustedFirmware.Io.Semihosting

/-!
# The host's handle over a session

`sh_file_open` keeps the host's handle in `entity->info`, a `uintptr_t`, and every later call
reads it back as an `int`. What this is for, over any run of calls on one entity
(`shRun_handles`): every exchange that passes a handle to the host passes the one answered by
the most recent successful `semihosting_file_open` before it, or the entity's own if there was
none, and the entity ends holding that handle; and every call reports `IO_SUCCESS` or
`IO_FAIL`, a failed call with its out-parameter as it was (`ShOp.Reports`). Two facts carry
the handles: a failed open leaves the entity as it was, and the round trip of an `int` through
`uintptr_t` loses nothing (`CInt.ofInt_toUInt64`). `shStep_cases` is the step lemma: everything
one call through `sh_dev_funcs` can do.
-/

namespace TrustedFirmware.Io

/-- The handle an exchange passes to the host; `semihosting_file_open` passes none. -/
def ShCall.fileHandle? : ShCall → Option CInt
  | .fileOpen .. => none
  | .fileSeek file_handle .. | .fileLength file_handle .. | .fileRead file_handle ..
  | .fileWrite file_handle .. | .fileClose file_handle .. => some file_handle

/-- The handle a successful `semihosting_file_open` answers, a positive one. -/
def ShCall.opened : ShCall → Option CInt
  | .fileOpen _ _ result => if 0 < result.val then some result else none
  | _ => none

/-- The handle held after the exchanges `calls` (latest first) by a session that held `init`:
that of the most recent successful open. -/
def heldHandle (init : CInt) (calls : List ShCall) : CInt :=
  (calls.findSome? ShCall.opened).getD init

/-- The entity after the exchanges `calls` of a session on `entity`: the handle of the most
recent successful open stored in `info`. -/
def entityAfter (entity : IoEntity) (calls : List ShCall) : IoEntity :=
  ((calls.findSome? ShCall.opened).map fun h => ⟨h.toUInt64⟩).getD entity

/-- What a call through `sh_dev_funcs` may report: `IO_SUCCESS` or `IO_FAIL`, and when it fails,
its out-parameter as it was before the call. -/
def ShOp.Reports (op : ShOp) (report : Int × Option UInt64) : Prop :=
  (report.1 = IO_SUCCESS ∨ report.1 = IO_FAIL) ∧ (report.1 = IO_FAIL → report.2 = op.out)

/-- Every exchange of `calls` that passes a handle passes the one the session held just
before it. -/
def HandlesFollowOpens (init : CInt) : List ShCall → Prop
  | [] => True
  | c :: calls =>
    (∀ h ∈ c.fileHandle?, h = heldHandle init calls) ∧ HandlesFollowOpens init calls

instance decidableHandlesFollowOpens (init : CInt) :
    (calls : List ShCall) → Decidable (HandlesFollowOpens init calls)
  | [] => isTrue trivial
  | c :: calls =>
    have := decidableHandlesFollowOpens init calls
    decidable_of_iff
      ((c.fileHandle?.all fun h => decide (h = heldHandle init calls)) ∧
        HandlesFollowOpens init calls)
      (show _ ↔ (∀ h ∈ c.fileHandle?, h = heldHandle init calls) ∧ _ by
        cases c.fileHandle? <;> simp)

theorem fileHandle_entityAfter (entity : IoEntity) (calls : List ShCall) :
    fileHandle (entityAfter entity calls) = heldHandle (fileHandle entity) calls := by
  unfold entityAfter heldHandle
  cases calls.findSome? ShCall.opened <;> simp [fileHandle]

theorem entityAfter_append (entity : IoEntity) (new old : List ShCall) :
    entityAfter entity (new ++ old) = entityAfter (entityAfter entity old) new := by
  unfold entityAfter
  rw [List.findSome?_append]
  cases new.findSome? ShCall.opened <;> rfl

theorem heldHandle_append (init : CInt) (new old : List ShCall) :
    heldHandle init (new ++ old) = heldHandle (heldHandle init old) new := by
  unfold heldHandle
  rw [List.findSome?_append]
  cases new.findSome? ShCall.opened <;> rfl

theorem handlesFollowOpens_append (init : CInt) (new old : List ShCall) :
    HandlesFollowOpens init (new ++ old) ↔
      HandlesFollowOpens (heldHandle init old) new ∧ HandlesFollowOpens init old := by
  induction new with
  | nil => simp [HandlesFollowOpens]
  | cons c new ih =>
    simp only [List.cons_append, HandlesFollowOpens, List.append_eq, ih, heldHandle_append,
      and_assoc]

variable {σ : Type} (H : ShHost σ)

/-- The step lemma: one call through `sh_dev_funcs` makes one exchange with the host, passing
the entity's handle if it passes one; it answers `IO_SUCCESS` or `IO_FAIL`; it changes the
entity only by a successful open, to the handle answered; and a failed call leaves its
out-parameter as it was. -/
theorem shStep_cases {entity entity' : IoEntity} {op : ShOp} {w w' : ShWorld σ} {rc : Int}
    {out : Option UInt64} (h : (shStep H entity op).run w = ((rc, entity', out), w')) :
    ∃ c, w'.calls = c :: w.calls ∧ (∀ h ∈ c.fileHandle?, h = fileHandle entity) ∧
      entity' = entityAfter entity [c] ∧ op.Reports (rc, out) := by
  cases op <;>
    simp only [shStep, run_map, shFileOpen_run, shFileSeek_run, shFileLen_run, shFileRead_run,
      shFileWrite_run, shFileClose_run, Prod.mk.injEq] at h <;>
    obtain ⟨⟨rfl, rfl, rfl⟩, rfl⟩ := h <;>
    refine ⟨_, rfl, by simp [ShCall.fileHandle?], ?_⟩ <;>
    split <;> simp_all [entityAfter, ShCall.opened, ShOp.Reports, ShOp.out, IO_SUCCESS, IO_FAIL]

/-- The run lemma: over any run of calls on one entity, from any state of the host, every
exchange that passes a handle passes the one answered by the most recent successful open
before it, or the entity's own; the entity ends holding the handle of the run's last
successful open, or as it was; and every call reports `IO_SUCCESS` or `IO_FAIL`, a failed one
with its out-parameter unchanged. -/
theorem shRun_handles (entity : IoEntity) (ops : List ShOp) (w : ShWorld σ) :
    ∃ new, ((shRun H entity ops).run w).2.calls = new ++ w.calls ∧
      HandlesFollowOpens (fileHandle entity) new ∧
      ((shRun H entity ops).run w).1.1 = entityAfter entity new ∧
      List.Forall₂ ShOp.Reports ops ((shRun H entity ops).run w).1.2 := by
  induction ops generalizing entity w with
  | nil => exact ⟨[], rfl, trivial, rfl, .nil⟩
  | cons op ops ih =>
    generalize hs : (shStep H entity op).run w = r
    obtain ⟨⟨rc, entity₁, out⟩, w₁⟩ := r
    obtain ⟨c, hc, hh, rfl, hrep⟩ := shStep_cases H hs
    obtain ⟨new, hnew, hf, hent, hreps⟩ := ih (entityAfter entity [c]) w₁
    have hrun : (shRun H entity (op :: ops)).run w =
        let rest := (shRun H (entityAfter entity [c]) ops).run w₁
        ((rest.1.1, (rc, out) :: rest.1.2), rest.2) := by
      rw [shRun, run_bind, hs]
      rfl
    rw [hrun]
    refine ⟨new ++ [c], ?_, ?_, ?_, .cons hrep hreps⟩
    · rw [hnew, hc, List.append_assoc]; rfl
    · rw [handlesFollowOpens_append, ← fileHandle_entityAfter]
      exact ⟨hf, hh, trivial⟩
    · rw [hent, entityAfter_append]

end TrustedFirmware.Io
