import Readiness.Rule.Basic

/-!
# The built-in rules

The rules for targets that lack the kernel interfaces of Linux.
-/

namespace Readiness.Rule

def blockingPatterns : List (String × String) := [
  ("io_uring", "io_uring async I/O is not supported on the target"),
  ("clone.*CLONE_NEW", "Linux namespaces are not supported on the target"),
  ("unshare", "Linux namespaces are not supported on the target"),
  ("setns", "Linux namespaces are not supported on the target"),
  ("perf_event_open", "Linux perf events are not supported on the target"),
  ("bpf", "eBPF is not supported on the target"),
  ("mount.*MS_", "mount flags are restricted on the target"),
  ("pivot_root", "switching the root filesystem is not supported")]

def reworkNames : List (String × String) := [
  ("epoll_create", "epoll -> poll() or select()"),
  ("epoll_ctl", "epoll -> poll() or select()"),
  ("epoll_wait", "epoll -> poll() or select()"),
  ("inotify_init", "inotify -> target file watcher service"),
  ("inotify_add_watch", "inotify -> target file watcher service"),
  ("eventfd", "eventfd -> pipe()"),
  ("signalfd", "signalfd -> signal() handler"),
  ("timerfd_create", "timerfd -> timer_create()"),
  ("timerfd_settime", "timerfd -> timer_settime()"),
  ("getauxval", "getauxval -> read manually or compile conditionally"),
  ("prctl", "prctl -> partially supported, verify each option"),
  ("sched_setaffinity", "CPU affinity -> partially supported")]

def safeNames : List String := [
  "pthread_", "socket", "bind", "listen", "accept", "connect", "open", "read", "write", "close",
  "lseek", "fstat", "malloc", "free", "realloc", "calloc", "memcpy", "memset", "strcmp",
  "strlen", "printf", "fprintf", "sprintf", "snprintf"]

/-- The built-in rules: blocking ones first, then those that need rework, then safe ones. -/
def builtin : List Rule :=
  blockingPatterns.map (fun r => ⟨r.1, .blocking, r.2, false⟩) ++
    reworkNames.map (fun r => ⟨r.1, .needsRework, r.2, true⟩) ++
    safeNames.map fun name => ⟨name, .safe, "portable, no action needed", true⟩

end Readiness.Rule
