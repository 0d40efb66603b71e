import ClusterTutor.Definition.Basic

/-!
# Scheduler tools

The tools of the batch scheduler: nodes, jobs and administration.
-/

namespace ClusterTutor.Content

/-- The definition of `scontrol`. -/
def scontrol : Definition where
  command := "scontrol"
  category := "cluster_management"
  description := "View or modify Slurm configuration and state."
  synopsis := "scontrol [OPTIONS] <subcommand> [ENTITY...]"
  options := [
    { short := some "d", long := some "details", description := "More detail in show output." },
    { short := some "o", long := some "oneliner", description := "One line per record." }]
  subcommands := [
    { name := "show", description := "Show an entity: node, partition, job, config." },
    { name := "update", description := "Change node, partition or job attributes." },
    { name := "reconfigure", description := "Re-read slurm.conf on all daemons." },
    { name := "ping", description := "Check slurmctld responsiveness." }]
  usage := [
    { command := "scontrol show node gpu01"
      description := "Full node record including drain reason." },
    { command := "sudo scontrol update NodeName=gpu01 State=RESUME"
      description := "Return a drained node to service."
      requiresRoot := true }]
  errors := [
    { message := "Invalid user for SlurmUser slurm, update not permitted"
      meaning := "Updates need the Slurm admin account."
      resolution := some "Run the update with sudo." }]
  interactions := some {
    reads := [{ domain := "cluster_state", fields := ["partition", "nodes_idle", "nodes_allocated"] }] }
  permissions := some { read := some "Any user can show entities."
                        write := some "update and reconfigure require root or SlurmUser." }

/-- The definition of `sinfo`. -/
def sinfo : Definition where
  command := "sinfo"
  category := "cluster_management"
  description := "View Slurm partition and node state."
  synopsis := "sinfo [OPTIONS]"
  options := [
    { short := some "N", long := some "Node", description := "Node-oriented output." },
    { short := some "l", long := some "long", description := "Long format." },
    { short := some "p"
      long := some "partition"
      arguments := some "PARTITION"
      description := "Only show one partition." },
    { short := some "R"
      long := some "list-reasons"
      description := "List reasons nodes are down or drained." },
    { short := some "t"
      long := some "states"
      arguments := some "STATES"
      description := "Only show nodes in these states." },
    { short := some "o"
      long := some "format"
      arguments := some "FORMAT"
      description := "Output format string." }]
  usage := [
    { command := "sinfo", description := "Partition summary." },
    { command := "sinfo -R", description := "Why are nodes drained?" },
    { command := "sinfo -N -l", description := "Per-node long listing." }]
  interactions := some {
    reads := [{ domain := "cluster_state", fields := ["partition", "nodes_idle", "nodes_allocated"] }] }

/-- The definition of `squeue`. -/
def squeue : Definition where
  command := "squeue"
  category := "cluster_management"
  description := "View jobs in the Slurm queue."
  synopsis := "squeue [OPTIONS]"
  options := [
    { short := some "u"
      long := some "user"
      arguments := some "USER"
      description := "Only show jobs of USER." },
    { short := some "p"
      long := some "partition"
      arguments := some "PARTITION"
      description := "Only show one partition." },
    { short := some "t"
      long := some "states"
      arguments := some "STATES"
      description := "Only show jobs in these states." },
    { short := some "j"
      long := some "jobs"
      arguments := some "IDS"
      description := "Only show these job ids." },
    { short := some "l", long := some "long", description := "Long format." },
    { long := some "start", description := "Show expected start times of pending jobs." }]
  usage := [
    { command := "squeue", description := "All jobs." },
    { command := "squeue -u $USER", description := "Your jobs." },
    { command := "squeue -t PENDING --start", description := "When will pending jobs start?" }]
  interactions := some {
    reads := [{ domain := "cluster_state", fields := ["partition", "nodes_allocated"] }] }

end ClusterTutor.Content
