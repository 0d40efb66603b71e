import ClusterTutor.Lab

/-!
# The labs of the tutor

The scenarios that come with the tutor, in the order in which they are loaded.
-/

namespace ClusterTutor.Content

/-- The form of a line that tries to set the persistence mode. -/
def persistenceAttempt : WatchPattern where
  source := "^nvidia-smi -pm"
  pattern := .seq (.anchor .textStart) (.ofText "nvidia-smi -pm")

/-- InfiniBand Link Check. -/
def fabricLinkCheckLab : Lab where
  id := "fabric-link-check"
  title := "InfiniBand Link Check"
  family := "infiniband-tools"
  description := "An NCCL all-reduce is slow on one node. Check its InfiniBand ports."
  steps := [
    { id := "local"
      title := "Check local port state and rate"
      expected := ["ibstat"]
      hints := [
        { id := "hint-0"
          level := 1
          message := "ibstat with no arguments shows every local port." }] },
    { id := "down"
      title := "Look for down links in the fabric"
      expected := ["iblinkinfo -d"]
      hints := [
        { id := "hint-0"
          level := 1
          message := "iblinkinfo has a flag that only shows down ports." }] },
    { id := "counters"
      title := "Read extended error counters"
      expected := ["perfquery -x"]
      hints := [{ id := "hint-0", level := 1, message := "perfquery -x shows 64-bit counters." }] }]

/-- GPU Containers. -/
def gpuContainerLab : Lab where
  id := "gpu-container"
  title := "GPU Containers"
  family := "container-tools"
  description := "Verify GPUs are visible inside a container."
  steps := [
    { id := "run"
      title := "Run nvidia-smi in a CUDA container with all GPUs"
      expected := ["docker run --rm --gpus all nvcr.io/nvidia/cuda:12.4.0-base-ubuntu22.04 nvidia-smi"]
      hints := [
        { id := "hint-0", level := 1, message := "Containers need --gpus to see devices." },
        { id := "answer"
          level := 3
          message := "Run: docker run --rm --gpus all nvcr.io/nvidia/cuda:12.4.0-base-ubuntu22.04 nvidia-smi"
          trigger := { kind := .string "attempts", count := .int 2 } }] },
    { id := "list"
      title := "List all containers, including stopped ones"
      expected := ["docker ps -a"]
      hints := [
        { id := "hint-0"
          level := 1
          message := "docker ps hides stopped containers unless you add -a." }] }]

/-- GPU Health Check. -/
def gpuHealthCheckLab : Lab where
  id := "gpu-health-check"
  title := "GPU Health Check"
  family := "gpu-monitoring"
  description := "A new node joined the cluster. Confirm its GPUs are visible and configured for batch jobs."
  steps := [
    { id := "list"
      title := "List every GPU with its UUID"
      expected := ["nvidia-smi -L"]
      hints := [
        { id := "hint-0"
          level := 1
          message := "nvidia-smi has a flag that lists GPUs one per line." },
        { id := "hint-1", level := 2, message := "Look for the option named list-gpus." },
        { id := "hint-2", level := 3, message := "Run: nvidia-smi -L" }] },
    { id := "inspect"
      title := "Inspect temperature and power detail"
      expected := ["nvidia-smi -q -d TEMPERATURE", "nvidia-smi -q -d POWER"]
      passingScore := 50
      hints := [
        { id := "query"
          level := 1
          message := "The detailed query mode is -q; -d narrows it to one section." },
        { id := "sections"
          level := 2
          message := "Section names are upper case, such as TEMPERATURE or POWER."
          trigger := { kind := .string "attempts", count := .int 2 } },
        { id := "answer"
          level := 3
          message := "Run: nvidia-smi -q -d TEMPERATURE"
          trigger := { kind := .string "time", seconds := .int 90 } }] },
    { id := "persistence"
      title := "Enable persistence mode"
      description := "Persistence mode keeps the driver loaded between jobs."
      expected := ["sudo nvidia-smi -pm 1"]
      hints := [
        { id := "flag", level := 1, message := "The persistence flag is -pm and takes 0 or 1." },
        { id := "root"
          level := 2
          message := "Changing GPU configuration needs root privileges."
          trigger := { kind := .string "command", pattern := some persistenceAttempt } },
        { id := "answer"
          level := 3
          message := "Run: sudo nvidia-smi -pm 1"
          trigger := { kind := .string "attempts", count := .int 3 } }] }]

/-- Power Capping a Hot Node. -/
def powerCappingLab : Lab where
  id := "power-capping"
  title := "Power Capping a Hot Node"
  family := "gpu-monitoring"
  tier := 2
  description := "A rack is over its power budget and one node runs hot. Confirm the readings and cap board power."
  initialState := .ofList [("gpu_state", .ofList [(.text "temperature", .int 88), (.text "power_limit", .int 700)])]
  steps := [
    { id := "observe"
      title := "Read the current temperature and power limit"
      expected := ["nvidia-smi -q -d POWER"]
      hints := [
        { id := "hint-0", level := 1, message := "Use the detailed query with the POWER section." }] },
    { id := "cap"
      title := "Cap board power at 500 W"
      expected := ["sudo nvidia-smi -pl 500"]
      hints := [
        { id := "flag", level := 1, message := "The power limit flag is -pl and takes watts." },
        { id := "answer"
          level := 3
          message := "Run: sudo nvidia-smi -pl 500"
          trigger := { kind := .string "attempts", count := .int 2 } }] },
    { id := "verify"
      title := "Run a quick DCGM diagnostic"
      expected := ["dcgmi diag -r 1"]
      hints := [
        { id := "hint-0"
          level := 1
          message := "dcgmi diag takes a run level with -r; level 1 is quick." }] }]

/-- Slurm Node Triage. -/
def slurmNodeTriageLab : Lab where
  id := "slurm-node-triage"
  title := "Slurm Node Triage"
  family := "cluster-tools"
  description := "Users report pending jobs. Find out why nodes are unavailable."
  steps := [
    { id := "reasons"
      title := "List reasons nodes are down or drained"
      expected := ["sinfo -R"]
      hints := [
        { id := "hint-0", level := 1, message := "sinfo can list down or drain reasons." },
        { id := "hint-1", level := 2, message := "Run: sinfo -R" }] },
    { id := "pending"
      title := "Show pending jobs and their expected start"
      expected := ["squeue -t PENDING --start"]
      hints := [
        { id := "hint-0", level := 1, message := "Filter squeue by state with -t." },
        { id := "hint-1", level := 2, message := "Add --start for expected start times." }] },
    { id := "node"
      title := "Show the full record for node gpu01"
      expected := ["scontrol show node gpu01"]
      hints := [
        { id := "hint-0", level := 1, message := "scontrol show takes an entity type and a name." }] }]

/-- The labs that come with the tutor. -/
def labs : OrderedMap String Lab :=
  .ofList ([fabricLinkCheckLab, gpuContainerLab, gpuHealthCheckLab,
      powerCappingLab, slurmNodeTriageLab].map fun l => (l.id, l))

end ClusterTutor.Content
