import ClusterTutor.Definition.Basic

/-!
# Diagnostic tools

Health checks of GPUs, and the collector of logs for a support case.
-/

namespace ClusterTutor.Content

/-- The definition of `dcgmi`. -/
def dcgmi : Definition where
  command := "dcgmi"
  category := "diagnostics"
  description := "Command line interface to the NVIDIA Data Center GPU Manager."
  synopsis := "dcgmi <subcommand> [OPTIONS]"
  options := [
    { long := some "host"
      arguments := some "IP"
      description := "Connect to a remote host engine." },
    { short := some "v", long := some "version", description := "Print version and exit." }]
  subcommands := [
    { name := "discovery"
      description := "Discover GPUs and their attributes."
      options := [{ short := some "l", long := some "list", description := "List all GPUs." }] },
    { name := "diag"
      description := "Run system validation diagnostics."
      options := [
        { short := some "r"
          long := some "run"
          arguments := some "LEVEL"
          sample := some "dcgmi diag -r 3"
          description := "Run diagnostic level 1 (quick) to 3 (long)." }] },
    { name := "health"
      description := "Manage health watches."
      options := [
        { short := some "c", long := some "check", description := "Check current health status." },
        { short := some "s"
          long := some "set"
          arguments := some "SYSTEMS"
          description := "Enable watches for systems (a all, p PCIe, m memory)." }] },
    { name := "group"
      description := "Manage GPU groups."
      options := [
        { short := some "g"
          long := some "group"
          arguments := some "ID"
          description := "Target group id." }] },
    { name := "stats", description := "Collect job statistics." }]
  exitCodes := [{ code := 0, meaning := "Success" }, { code := 226, meaning := "Diagnostic test failed" }]
  usage := [
    { command := "dcgmi discovery -l", description := "List GPUs visible to DCGM." },
    { command := "dcgmi diag -r 1", description := "Quick health check." },
    { command := "dcgmi diag -r 3"
      description := "Long stress diagnostics before returning a node to service." }]
  errors := [
    { message := "Error: unable to establish a connection to the specified host"
      meaning := "The nv-hostengine service is not running."
      resolution := some "Start it with systemctl start nvidia-dcgm." }]
  interactions := some {
    reads := [{ domain := "gpu_state", fields := ["gpu_count"] }]
    writes := [{ domain := "diagnostics", fields := ["last_run_level"], flags := some ["r"] }] }
  permissions := some { read := some "Any user with access to the host engine."
                        write := some "Group and policy changes go through the host engine service." }

/-- The definition of `nvidia-bug-report`. -/
def nvidiaBugReport : Definition where
  command := "nvidia-bug-report"
  category := "diagnostics"
  description := "Collect driver, kernel and GPU logs into a support bundle."
  synopsis := "nvidia-bug-report [OPTIONS]"
  options := [
    { flag := some "output-file"
      arguments := some "FILE"
      description := "Write the bundle to FILE instead of nvidia-bug-report.log.gz." },
    { flag := some "safe-mode", description := "Skip commands that may hang on a wedged GPU." },
    { flag := some "extra-system-data", description := "Include additional system logs." }]
  usage := [
    { command := "sudo nvidia-bug-report"
      description := "Create nvidia-bug-report.log.gz in the current directory."
      requiresRoot := true },
    { command := "sudo nvidia-bug-report --safe-mode"
      description := "Collect logs from a hung system."
      requiresRoot := true }]
  interactions := some {
    writes := [{ domain := "diagnostics", fields := ["bug_report"], privilege := some "root" }] }
  permissions := some { write := some "Must run as root to read kernel and driver logs." }

end ClusterTutor.Content
