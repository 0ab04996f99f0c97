import TrustedFirmware.CTypes

/-!
# The semihosting I/O driver

Reference: `io_semihosting.c`.

The driver serves files of the debugger's host to the I/O layer through the table
`sh_dev_funcs`. Each of its file functions reads the host's handle back from the entity
(`(int)entity->info`), makes one call of the semihosting library with it, and turns the answer
into `IO_SUCCESS` or `IO_FAIL`; `sh_file_open` stores the handle the host answers in
`entity->info`, a `uintptr_t`.

The semihosting library and the I/O layer are not among the sources. The library is the host,
`ShHost`, over a state `σ`: one field per call, each answering an `int`, the read and write
calls also the count they write back through their `int *length`. The driver runs in `ShM`,
which threads the host's state and records every exchange with the host: the call, its
arguments and the answer. Entities and out-parameters are passed by value and returned, so the
pointer `assert`s hold by construction. `IO_SUCCESS` and `IO_FAIL` are those of `io_storage.h`.

`ShOp` and `shStep` are the calls the I/O layer makes through `sh_dev_funcs`; each has a
closed form (`shFileOpen_run` and the rest), which the theorems about runs cite.
-/

namespace TrustedFirmware.Io

/-- `IO_SUCCESS`. -/
def IO_SUCCESS : Int := 0
/-- `IO_FAIL`. -/
def IO_FAIL : Int := -1

/-- An `io_file_spec`: the name of a file of the host and the mode to open it in. -/
structure IoFileSpec where
  path : String
  mode : UInt32
  deriving DecidableEq, Repr

/-- An `io_entity`, as far as this driver uses it: `info`, where it keeps the host's handle. -/
structure IoEntity where
  info : UInt64
  deriving DecidableEq, Repr

/-- The file calls of the semihosting library, over the host's state: each answers an `int`;
`semihosting_file_read` and `semihosting_file_write` also answer the count they write back
through `length`. -/
structure ShHost (σ : Type) where
  semihostingFileOpen : String → UInt32 → σ → CInt × σ
  semihostingFileSeek : CInt → Int → σ → CInt × σ
  semihostingFileLength : CInt → σ → CInt × σ
  semihostingFileRead : CInt → CInt → UInt64 → σ → (CInt × CInt) × σ
  semihostingFileWrite : CInt → CInt → UInt64 → σ → (CInt × CInt) × σ
  semihostingFileClose : CInt → σ → CInt × σ

/-- One exchange with the host: a call with its arguments and the host's answer. -/
inductive ShCall
  | fileOpen (file_name : String) (mode : UInt32) (result : CInt)
  | fileSeek (file_handle : CInt) (offset : Int) (result : CInt)
  | fileLength (file_handle : CInt) (result : CInt)
  | fileRead (file_handle length : CInt) (buffer : UInt64) (result length' : CInt)
  | fileWrite (file_handle length : CInt) (buffer : UInt64) (result length' : CInt)
  | fileClose (file_handle : CInt) (result : CInt)
  deriving DecidableEq

/-- The host's state and the exchanges with it so far, the latest first. -/
structure ShWorld (σ : Type) where
  st : σ
  calls : List ShCall

/-- The driver's monad. -/
abbrev ShM (σ : Type) := StateM (ShWorld σ)

variable {σ : Type} (H : ShHost σ)

/-! ## The semihosting calls -/

/-- Make the call `call` of the host and record it, with its answer, by `record`. -/
def exchange {α : Type} (call : σ → α × σ) (record : α → ShCall) : ShM σ α := fun w =>
  let r := call w.st
  (r.1, ⟨r.2, record r.1 :: w.calls⟩)

/-- `semihosting_file_open(file_name, mode)`. -/
def semihostingFileOpen (file_name : String) (mode : UInt32) : ShM σ CInt :=
  exchange (H.semihostingFileOpen file_name mode) (.fileOpen file_name mode)

/-- `semihosting_file_seek(file_handle, offset)`. -/
def semihostingFileSeek (file_handle : CInt) (offset : Int) : ShM σ CInt :=
  exchange (H.semihostingFileSeek file_handle offset) (.fileSeek file_handle offset)

/-- `semihosting_file_length(file_handle)`. -/
def semihostingFileLength (file_handle : CInt) : ShM σ CInt :=
  exchange (H.semihostingFileLength file_handle) (.fileLength file_handle)

/-- `semihosting_file_read(file_handle, &length, buffer)`: the answer and the new `length`. -/
def semihostingFileRead (file_handle length : CInt) (buffer : UInt64) : ShM σ (CInt × CInt) :=
  exchange (H.semihostingFileRead file_handle length buffer)
    fun r => .fileRead file_handle length buffer r.1 r.2

/-- `semihosting_file_write(file_handle, &length, buffer)`: the answer and the new `length`. -/
def semihostingFileWrite (file_handle length : CInt) (buffer : UInt64) : ShM σ (CInt × CInt) :=
  exchange (H.semihostingFileWrite file_handle length buffer)
    fun r => .fileWrite file_handle length buffer r.1 r.2

/-- `semihosting_file_close(file_handle)`. -/
def semihostingFileClose (file_handle : CInt) : ShM σ CInt :=
  exchange (H.semihostingFileClose file_handle) (.fileClose file_handle)

/-! ## The driver -/

/-- `(int)entity->info`: the host's handle as the driver reads it back. -/
def fileHandle (entity : IoEntity) : CInt := CInt.ofInt entity.info.toNat

/-- `sh_file_open`: open the file on the host and keep a positive handle in `entity->info`. -/
def shFileOpen (file_spec : IoFileSpec) (entity : IoEntity) : ShM σ (Int × IoEntity) := do
  let sh_result ← semihostingFileOpen H file_spec.path file_spec.mode
  if 0 < sh_result.val then
    return (IO_SUCCESS, { entity with info := sh_result.toUInt64 })
  else
    return (IO_FAIL, entity)

/-- `sh_file_seek`: `mode` is not read. -/
def shFileSeek (entity : IoEntity) (_mode : Int) (offset : Int) : ShM σ Int := do
  let sh_result ← semihostingFileSeek H (fileHandle entity) offset
  return if sh_result.val = 0 then IO_SUCCESS else IO_FAIL

/-- `sh_file_len`: the return code and `*length`, written only on success. -/
def shFileLen (entity : IoEntity) (length : UInt64) : ShM σ (Int × UInt64) := do
  let sh_result ← semihostingFileLength H (fileHandle entity)
  return if 0 ≤ sh_result.val then (IO_SUCCESS, sh_result.toUInt64) else (IO_FAIL, length)

/-- `sh_file_read`: the return code and `*length_read`, written only on success; the count
asked of the host is `int bytes = length`. -/
def shFileRead (entity : IoEntity) (buffer length length_read : UInt64) :
    ShM σ (Int × UInt64) := do
  let bytes := CInt.ofInt length.toNat
  let (sh_result, bytes) ← semihostingFileRead H (fileHandle entity) bytes buffer
  return if 0 ≤ sh_result.val then
      (IO_SUCCESS, if bytes.toUInt64 ≠ length then bytes.toUInt64 else length)
    else (IO_FAIL, length_read)

/-- `sh_file_write`: the return code and `*length_written`, written only on success, with the
host's answer. -/
def shFileWrite (entity : IoEntity) (buffer length length_written : UInt64) :
    ShM σ (Int × UInt64) := do
  let bytes := CInt.ofInt length.toNat
  let (sh_result, _) ← semihostingFileWrite H (fileHandle entity) bytes buffer
  return if 0 ≤ sh_result.val then (IO_SUCCESS, sh_result.toUInt64) else (IO_FAIL, length_written)

/-- `sh_file_close`. -/
def shFileClose (entity : IoEntity) : ShM σ Int := do
  let sh_result ← semihostingFileClose H (fileHandle entity)
  return if 0 ≤ sh_result.val then IO_SUCCESS else IO_FAIL

/-! ## Closed forms -/

@[simp] theorem run_bind {α β : Type} (x : ShM σ α) (f : α → ShM σ β) (w : ShWorld σ) :
    (x >>= f).run w = (f (x.run w).1).run (x.run w).2 := rfl

@[simp] theorem run_pure {α : Type} (a : α) (w : ShWorld σ) : (pure a : ShM σ α).run w = (a, w) :=
  rfl

@[simp] theorem run_map {α β : Type} (f : α → β) (x : ShM σ α) (w : ShWorld σ) :
    (f <$> x).run w = (f (x.run w).1, (x.run w).2) := rfl

theorem exchange_bind_run {α β : Type} (call : σ → α × σ) (record : α → ShCall)
    (f : α → ShM σ β) (w : ShWorld σ) :
    (exchange call record >>= f).run w =
      (f (call w.st).1).run ⟨(call w.st).2, record (call w.st).1 :: w.calls⟩ := rfl

/-- `(bytes != length) ? bytes : length` is `bytes`. -/
theorem ite_ne_self_left {α : Type} [DecidableEq α] (a b : α) : (if a ≠ b then a else b) = a := by
  by_cases h : a = b <;> simp [h]

theorem shFileOpen_run (file_spec : IoFileSpec) (entity : IoEntity) (w : ShWorld σ) :
    (shFileOpen H file_spec entity).run w =
      let r := H.semihostingFileOpen file_spec.path file_spec.mode w.st
      ((if 0 < r.1.val then (IO_SUCCESS, ⟨r.1.toUInt64⟩) else (IO_FAIL, entity)),
        ⟨r.2, .fileOpen file_spec.path file_spec.mode r.1 :: w.calls⟩) := by
  rw [shFileOpen, semihostingFileOpen, exchange_bind_run]
  split <;> rename_i h <;> simp only [h, if_true, if_false] <;> rfl

theorem shFileSeek_run (entity : IoEntity) (mode offset : Int) (w : ShWorld σ) :
    (shFileSeek H entity mode offset).run w =
      let r := H.semihostingFileSeek (fileHandle entity) offset w.st
      (if r.1.val = 0 then IO_SUCCESS else IO_FAIL,
        ⟨r.2, .fileSeek (fileHandle entity) offset r.1 :: w.calls⟩) := rfl

theorem shFileLen_run (entity : IoEntity) (length : UInt64) (w : ShWorld σ) :
    (shFileLen H entity length).run w =
      let r := H.semihostingFileLength (fileHandle entity) w.st
      ((if 0 ≤ r.1.val then (IO_SUCCESS, r.1.toUInt64) else (IO_FAIL, length)),
        ⟨r.2, .fileLength (fileHandle entity) r.1 :: w.calls⟩) := rfl

/-- `sh_file_read` reports the count the host writes back, whatever it is. -/
theorem shFileRead_run (entity : IoEntity) (buffer length length_read : UInt64)
    (w : ShWorld σ) :
    (shFileRead H entity buffer length length_read).run w =
      let r := H.semihostingFileRead (fileHandle entity) (CInt.ofInt length.toNat) buffer w.st
      ((if 0 ≤ r.1.1.val then (IO_SUCCESS, r.1.2.toUInt64) else (IO_FAIL, length_read)),
        ⟨r.2, .fileRead (fileHandle entity) (CInt.ofInt length.toNat) buffer r.1.1 r.1.2 ::
          w.calls⟩) := by
  rw [shFileRead, semihostingFileRead, exchange_bind_run]
  generalize H.semihostingFileRead (fileHandle entity) (CInt.ofInt length.toNat) buffer w.st = r
  obtain ⟨⟨sh_result, bytes⟩, st⟩ := r
  by_cases h : 0 ≤ sh_result.val <;> simp only [h, if_true, if_false, ite_ne_self_left] <;> rfl

theorem shFileWrite_run (entity : IoEntity) (buffer length length_written : UInt64)
    (w : ShWorld σ) :
    (shFileWrite H entity buffer length length_written).run w =
      let r := H.semihostingFileWrite (fileHandle entity) (CInt.ofInt length.toNat) buffer w.st
      ((if 0 ≤ r.1.1.val then (IO_SUCCESS, r.1.1.toUInt64) else (IO_FAIL, length_written)),
        ⟨r.2, .fileWrite (fileHandle entity) (CInt.ofInt length.toNat) buffer r.1.1 r.1.2 ::
          w.calls⟩) := rfl

theorem shFileClose_run (entity : IoEntity) (w : ShWorld σ) :
    (shFileClose H entity).run w =
      let r := H.semihostingFileClose (fileHandle entity) w.st
      (if 0 ≤ r.1.val then IO_SUCCESS else IO_FAIL,
        ⟨r.2, .fileClose (fileHandle entity) r.1 :: w.calls⟩) := rfl

/-! ## The calls of `sh_dev_funcs` -/

/-- A call the I/O layer makes through `sh_dev_funcs` (`open`, `seek`, `size`, `read`, `write`,
`close`) with its arguments; those with an out-parameter carry its value before the call. -/
inductive ShOp
  | fileOpen (file_spec : IoFileSpec)
  | fileSeek (mode offset : Int)
  | fileLen (length : UInt64)
  | fileRead (buffer length length_read : UInt64)
  | fileWrite (buffer length length_written : UInt64)
  | fileClose

/-- The value of the call's out-parameter before the call, if it has one. -/
def ShOp.out : ShOp → Option UInt64
  | .fileLen length => some length
  | .fileRead _ _ length_read => some length_read
  | .fileWrite _ _ length_written => some length_written
  | _ => none

/-- One call through `sh_dev_funcs` on `entity`: the return code, the entity afterwards and the
value of the out-parameter afterwards. -/
def shStep (entity : IoEntity) : ShOp → ShM σ (Int × IoEntity × Option UInt64)
  | .fileOpen file_spec => (fun r => (r.1, r.2, none)) <$> shFileOpen H file_spec entity
  | .fileSeek mode offset => (·, entity, none) <$> shFileSeek H entity mode offset
  | .fileLen length => (fun r => (r.1, entity, some r.2)) <$> shFileLen H entity length
  | .fileRead buffer length length_read =>
    (fun r => (r.1, entity, some r.2)) <$> shFileRead H entity buffer length length_read
  | .fileWrite buffer length length_written =>
    (fun r => (r.1, entity, some r.2)) <$> shFileWrite H entity buffer length length_written
  | .fileClose => (·, entity, none) <$> shFileClose H entity

/-- A run of calls on one entity: the entity at the end, and what each call reported, its
return code and the value of its out-parameter after it, in the order of the calls. -/
def shRun : IoEntity → List ShOp → ShM σ (IoEntity × List (Int × Option UInt64))
  | entity, [] => pure (entity, [])
  | entity, op :: ops => do
    let r ← shStep H entity op
    let rest ← shRun r.2.1 ops
    return (rest.1, (r.1, r.2.2) :: rest.2)

end TrustedFirmware.Io
