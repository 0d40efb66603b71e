import ClusterTutor.Family

/-!
# The families of the tutor

The families of commands that come with the tutor, in order.
-/

namespace ClusterTutor.Content

/-- GPU Monitoring. -/
def gpuMonitoringFamily : Family where
  id := "gpu-monitoring"
  name := "GPU Monitoring"
  description := "Inspect GPU health, utilization, power and configuration."
  tools := [
    { name := "nvidia-smi", tagline := "Per-node GPU status and configuration" },
    { name := "nvtop", tagline := "Interactive GPU process monitor" },
    { name := "dcgmi", tagline := "Data center GPU manager CLI" }]

/-- InfiniBand Tools. -/
def infinibandToolsFamily : Family where
  id := "infiniband-tools"
  name := "InfiniBand Tools"
  description := "Check HCA ports, fabric links and port counters."
  tools := [
    { name := "ibstat", tagline := "Local HCA and port state" },
    { name := "iblinkinfo", tagline := "Fabric link map" },
    { name := "perfquery", tagline := "Port performance and error counters" }]

/-- BMC & Hardware. -/
def bmcHardwareFamily : Family where
  id := "bmc-hardware"
  name := "BMC & Hardware"
  description := "Query out-of-band management, sensors and firmware tables."
  tools := [
    { name := "ipmitool"
      tagline := "BMC sensors, event log and power control"
      permissions := "root" },
    { name := "sensors", tagline := "Motherboard temperatures and fans" },
    { name := "dmidecode", tagline := "SMBIOS hardware inventory", permissions := "root" }]

/-- Cluster Tools. -/
def clusterToolsFamily : Family where
  id := "cluster-tools"
  name := "Cluster Tools"
  description := "Inspect Slurm partitions, nodes and jobs."
  tools := [
    { name := "sinfo", tagline := "Partition and node state summary" },
    { name := "squeue", tagline := "Pending and running jobs" },
    { name := "scontrol", tagline := "Detailed view and administration" }]

/-- Container Tools. -/
def containerToolsFamily : Family where
  id := "container-tools"
  name := "Container Tools"
  description := "Run GPU workloads in containers."
  tools := [
    { name := "docker", tagline := "Container runtime with GPU passthrough" },
    { name := "enroot", tagline := "Unprivileged container runtime for HPC" }]

/-- Diagnostics. -/
def diagnosticsFamily : Family where
  id := "diagnostics"
  name := "Diagnostics"
  description := "Run GPU diagnostics and collect support data."
  tools := [
    { name := "dcgmi", tagline := "Run diagnostic levels 1-3" },
    { name := "nvidia-bug-report"
      tagline := "Collect a support log bundle"
      permissions := "root" }]

/-- The families that come with the tutor. -/
def families : Families :=
  .ofList ([gpuMonitoringFamily, infinibandToolsFamily, bmcHardwareFamily,
      clusterToolsFamily, containerToolsFamily, diagnosticsFamily].map fun f => (f.id, f))

end ClusterTutor.Content
