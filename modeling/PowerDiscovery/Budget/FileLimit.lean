import PowerDiscovery.Fault
import PowerDiscovery.Journal

/-! # The limit on open files

The soft limit bounds how many connections can be open at once.  A system may have no such limit, set it
to unlimited, or fail to tell it. -/

namespace PowerDiscovery

inductive FileLimit where
  | absent
  | failing (cause : Fault)
  | given (soft hard : Int)

namespace FileLimit

/-- The value that stands for no limit. -/
def unlimited : Int := -1

/-- The soft limit, if there is one and the system tells it.  A failure of another kind than a refusal
is passed on. -/
def read : FileLimit → Logged (Except Fault (Option Int))
  | .absent => return .ok none
  | .failing cause =>
    if cause.isSystem || cause.isValue then do
      Traced.emit (.warning s!"getrlimit() failed ({cause.message}), keeping default job limits")
      return .ok none
    else return .error cause
  | .given soft hard => do
    Traced.emit (.debug s!"Detected soft limit for file descriptor count is {soft}")
    Traced.emit (.debug s!"Detected hard limit for file descriptor count is {hard}")
    return .ok (if soft = unlimited then none else some soft)

end FileLimit

end PowerDiscovery
