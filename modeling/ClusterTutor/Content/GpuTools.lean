import ClusterTutor.Definition.Basic

/-!
# GPU tools

The command-line view of the GPUs of one node, and the live monitor over it.
-/

namespace ClusterTutor.Content

/-- The definition of `nvidia-smi`. -/
def nvidiaSmi : Definition where
  command := "nvidia-smi"
  category := "gpu_management"
  description := "Query and manage NVIDIA GPU devices."
  synopsis := "nvidia-smi [OPTIONS]"
  options := [
    { short := some "h", long := some "help", description := "Print usage information and exit." },
    { short := some "L"
      long := some "list-gpus"
      sample := some "nvidia-smi -L"
      description := "List each GPU with its UUID." },
    { short := some "q"
      long := some "query"
      sample := some "nvidia-smi -q"
      description := "Display GPU or unit info." },
    { short := some "d"
      long := some "display"
      arguments := some "TYPE"
      sample := some "nvidia-smi -q -d POWER"
      description := "Limit query output to sections such as MEMORY, POWER, TEMPERATURE, ECC." },
    { short := some "i"
      long := some "id"
      arguments := some "ID"
      sample := some "nvidia-smi -i 0 -q"
      description := "Target a specific GPU by index, UUID or PCI bus id." },
    { short := some "l"
      long := some "loop"
      arguments := some "SEC"
      description := "Repeat the query every SEC seconds." },
    { flag := some "query-gpu"
      arguments := some "FIELDS"
      sample := some "nvidia-smi --query-gpu=temperature.gpu,power.draw --format=csv"
      description := "Comma separated list of GPU attributes to query." },
    { flag := some "format"
      arguments := some "FORMAT"
      description := "Output format for --query-gpu (csv, noheader, nounits)." },
    { short := some "pm"
      long := some "persistence-mode"
      arguments := some "0|1"
      sample := some "nvidia-smi -pm 1"
      description := "Set persistence mode: 0 disabled, 1 enabled." },
    { short := some "pl"
      long := some "power-limit"
      arguments := some "WATTS"
      sample := some "nvidia-smi -pl 300"
      description := "Set the power limit in watts." },
    { short := some "e"
      long := some "ecc-config"
      arguments := some "0|1"
      description := "Toggle ECC support; takes effect after reboot." },
    { short := some "r"
      long := some "gpu-reset"
      description := "Trigger a secondary bus reset of the GPU." },
    { short := some "c"
      long := some "compute-mode"
      arguments := some "MODE"
      description := "Set compute mode (0 default, 2 prohibited, 3 exclusive process)." },
    { short := some "mig"
      long := some "multi-instance-gpu"
      arguments := some "0|1"
      description := "Enable or disable MIG mode." },
    { short := some "lgc"
      long := some "lock-gpu-clocks"
      arguments := some "MIN,MAX"
      description := "Lock GPU clocks to a range in MHz." },
    { short := some "rgc"
      long := some "reset-gpu-clocks"
      description := "Reset GPU clocks to default." }]
  subcommands := [
    { name := "topo"
      description := "Display GPU and NIC topology."
      options := [{ short := some "m", long := some "matrix", description := "Show the topology matrix." }] },
    { name := "nvlink"
      description := "Display NVLink status and counters."
      options := [{ short := some "s", long := some "status", description := "Show link state per lane." }] },
    { name := "mig", description := "Manage MIG GPU and compute instances." }]
  exitCodes := [
    { code := 0, meaning := "Success" },
    { code := 2, meaning := "A supplied argument or flag is invalid" },
    { code := 4
      meaning := "The user does not have permission to access this device or perform this operation" },
    { code := 6, meaning := "A query to find an object was unsuccessful" },
    { code := 9, meaning := "NVIDIA driver is not loaded" },
    { code := 15, meaning := "A GPU has fallen off the bus or has otherwise become inaccessible" }]
  usage := [
    { command := "nvidia-smi", description := "Summary table of all GPUs." },
    { command := "nvidia-smi -q -d TEMPERATURE", description := "Detailed temperature readings." },
    { command := "nvidia-smi --query-gpu=index,temperature.gpu,power.draw --format=csv"
      description := "Scriptable CSV output." },
    { command := "nvidia-smi -pm 1"
      description := "Keep the driver loaded between jobs."
      requiresRoot := true },
    { command := "nvidia-smi -pl 300"
      description := "Cap board power at 300 W."
      requiresRoot := true }]
  errors := [
    { message := "Insufficient Permissions"
      meaning := "The operation changes device state."
      resolution := some "Re-run the command with sudo." },
    { message := "NVIDIA-SMI has failed because it couldn't communicate with the NVIDIA driver"
      meaning := "The kernel module is not loaded."
      resolution := some "Check dmesg and reload the driver with modprobe nvidia." },
    { message := "Unable to determine the device handle for GPU"
      meaning := "The GPU fell off the bus."
      resolution := some "Check for Xid 79 in the kernel log and reseat or reset the GPU." }]
  interactions := some {
    reads := [
      { domain := "gpu_state"
        fields := [
                    "gpu_count",
                    "temperature",
                    "power_limit",
                    "persistence_mode",
                    "ecc_mode",
                    "mig_mode"] }]
    writes := [
      { domain := "gpu_state"
        fields := ["persistence_mode"]
        privilege := some "root"
        flags := some ["pm"] },
      { domain := "gpu_state"
        fields := ["power_limit"]
        privilege := some "root"
        flags := some ["pl"] },
      { domain := "gpu_state"
        fields := ["ecc_mode"]
        privilege := some "root"
        flags := some ["e"] },
      { domain := "gpu_state"
        fields := ["mig_mode"]
        privilege := some "root"
        flags := some ["mig"] }] }
  permissions := some { read := some "Any user can query GPU state."
                        write := some "Changing persistence mode, power limits, ECC, clocks or MIG requires root."
                        notes := some "Power limit changes are lost on reboot unless persistence is configured." }

/-- The definition of `nvtop`. -/
def nvtop : Definition where
  command := "nvtop"
  category := "monitoring"
  description := "Interactive GPU process viewer."
  synopsis := "nvtop [OPTIONS]"
  options := [
    { short := some "d"
      long := some "delay"
      arguments := some "TENTHS"
      description := "Refresh interval in tenths of a second." },
    { short := some "s"
      long := some "gpu-select"
      arguments := some "IDS"
      description := "Colon separated GPU ids to show." },
    { short := some "C", long := some "no-color", description := "Monochrome output." },
    { short := some "v", long := some "version", description := "Print version and exit." }]
  exitCodes := [{ code := 0, meaning := "Success" }]
  usage := [
    { command := "nvtop", description := "Watch utilization and processes on all GPUs." },
    { command := "nvtop -d 5", description := "Refresh twice per second." }]
  interactions := some {
    reads := [{ domain := "gpu_state", fields := ["gpu_count", "temperature"] }] }

end ClusterTutor.Content
