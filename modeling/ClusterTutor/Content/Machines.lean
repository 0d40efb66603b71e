import ClusterTutor.Simulation.State

/-!
# The machines at the start

How the simulated machines are set up before anything is run: the GPUs of the node, the
scheduler, the fabric and the management controller.
-/

namespace ClusterTutor.Content

/-- The state that every session starts with. -/
def machines : Snapshot :=
  .ofList [
    ("gpu_state", .ofList [
      (.text "gpu_count", .int 8),
      (.text "temperature", .int 45),
      (.text "power_limit", .int 400),
      (.text "persistence_mode", .string "Disabled"),
      (.text "ecc_mode", .string "Enabled"),
      (.text "mig_mode", .string "Disabled")]),
    ("cluster_state", .ofList [
      (.text "partition", .string "gpu"),
      (.text "nodes_idle", .int 4),
      (.text "nodes_allocated", .int 0)]),
    ("fabric_state", .ofList [
      (.text "port_state", .string "Active"),
      (.text "rate", .string "400 Gb/sec (4X NDR)"),
      (.text "symbol_errors", .int 0),
      (.text "link_downed", .int 0)]),
    ("bmc_state", .ofList [
      (.text "power_state", .string "on"),
      (.text "sel_entries", .int 3),
      (.text "inlet_temperature", .int 24)])]

end ClusterTutor.Content
