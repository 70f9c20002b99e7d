import Hpc.Lib.Conversion
import Hpc.Wire.Proto

set_option autoImplicit false

namespace Hpc.Wire

open Hpc.Core Hpc.Lib

def KnownRole (v : Int32) : Prop := ∃ role, Pb.NodeRole.tryFrom v = some role ∧ role ≠ .unspecified
def KnownDeployAction (v : Int32) : Prop := ∃ action, Pb.DeployAction.tryFrom v = some action ∧ action ≠ .unspecified
def KnownFsAction (v : Int32) : Prop := ∃ action, Pb.FsAction.tryFrom v = some action ∧ action ≠ .unspecified

section Enums

theorem role_try_from (v : Int32) (role : Pb.NodeRole) (known : Pb.NodeRole.tryFrom v = some role) : role.toI32 = v := by
  rw [Pb.NodeRole.tryFrom] at known
  split_ifs at known <;> cases known <;> simp_all [Pb.NodeRole.toI32]

theorem deploy_action_try_from (v : Int32) (action : Pb.DeployAction) (known : Pb.DeployAction.tryFrom v = some action) :
    action.toI32 = v := by
  rw [Pb.DeployAction.tryFrom] at known
  split_ifs at known <;> cases known <;> simp_all [Pb.DeployAction.toI32]

theorem fs_action_try_from (v : Int32) (action : Pb.FsAction) (known : Pb.FsAction.tryFrom v = some action) :
    action.toI32 = v := by
  rw [Pb.FsAction.tryFrom] at known
  split_ifs at known <;> cases known <;> simp_all [Pb.FsAction.toI32]

theorem role_round_trips : RoundTrips roleToPb roleFromPb KnownRole := by
  apply round_trips
  · intro role
    cases role <;> rfl
  · rintro v ⟨role, known, named⟩
    rw [roleFromPb, known, ← role_try_from v role known]
    cases role with
    | unspecified => exact absurd rfl named
    | storage => rfl
    | compute => rfl
    | metadata => rfl
    | gateway => rfl

theorem deploy_action_round_trips : RoundTrips deployActionToPb deployActionFromPb KnownDeployAction := by
  apply round_trips
  · exact deploy_action_from_to_pb
  · rintro v ⟨action, known, named⟩
    rw [deployActionFromPb, known, ← deploy_action_try_from v action known]
    cases action with
    | unspecified => exact absurd rfl named
    | install => rfl
    | upgrade => rfl
    | rollback => rfl
    | remove => rfl

theorem fs_action_round_trips : RoundTrips fsActionToPb fsActionFromPb KnownFsAction := by
  apply round_trips
  · exact fs_action_from_to_pb
  · rintro v ⟨action, known, named⟩
    rw [fsActionFromPb, known, ← fs_action_try_from v action known]
    cases action with
    | unspecified => exact absurd rfl named
    | mount => rfl
    | unmount => rfl
    | remount => rfl
    | check => rfl
    | format => rfl

end Enums

section Messages

variable {F : Type}

theorem cpu_round_trips : RoundTrips (cpuToPb (F := F)) cpuFromPb fun _ => True :=
  round_trips _ _ _ (fun _ => rfl) fun _ _ => rfl

theorem memory_round_trips : RoundTrips memoryToPb memoryFromPb fun _ => True :=
  round_trips _ _ _ (fun _ => rfl) fun _ _ => rfl

theorem load_round_trips : RoundTrips (loadToPb (F := F)) loadFromPb fun _ => True :=
  round_trips _ _ _ (fun _ => rfl) fun _ _ => rfl

theorem disk_round_trips : RoundTrips (diskToPb (F := F)) diskFromPb fun _ => True :=
  round_trips _ _ _ (fun _ => rfl) fun _ _ => rfl

theorem network_round_trips : RoundTrips networkToPb networkFromPb fun _ => True :=
  round_trips _ _ _ (fun _ => rfl) fun _ _ => rfl

theorem filesystem_round_trips : RoundTrips filesystemToPb filesystemFromPb fun _ => True :=
  round_trips _ _ _ (fun _ => rfl) fun _ _ => rfl

theorem outcome_round_trips : RoundTrips outcomeToPb outcomeFromPb fun _ => True :=
  round_trips _ _ _ (fun _ => rfl) fun _ _ => rfl

theorem node_info_round_trips : RoundTrips nodeInfoToPb nodeInfoFromPb fun p => KnownRole p.role := by
  apply round_trips
  · intro info
    simp [nodeInfoFromPb, nodeInfoToPb, role_round_trips.decoded, mapToBtree, btreeToMap]
  · intro p known
    simp [nodeInfoFromPb, nodeInfoToPb, role_round_trips.encoded p.role known, mapToBtree, btreeToMap]

theorem deploy_spec_round_trips : RoundTrips deploySpecToPb deploySpecFromPb fun p => KnownDeployAction p.action := by
  apply round_trips
  · exact deploy_spec_from_to_pb
  · intro p known
    simp [deploySpecFromPb, deploySpecToPb, deploy_action_round_trips.encoded p.action known, mapToBtree, btreeToMap]

theorem fs_spec_round_trips : RoundTrips fsSpecToPb fsSpecFromPb fun p => KnownFsAction p.action := by
  apply round_trips
  · exact fs_spec_from_to_pb
  · intro p known
    simp [fsSpecFromPb, fsSpecToPb, fs_action_round_trips.encoded p.action known]

variable [F64 F]

def Complete (p : Pb.MetricsReport F) : Prop := p.cpu ≠ none ∧ p.memory ≠ none ∧ p.load ≠ none ∧ p.network ≠ none

theorem metrics_report_round_trips : RoundTrips (metricsReportToPb (F := F)) metricsReportFromPb Complete := by
  apply round_trips
  · intro report
    simp only [metricsReportFromPb, metricsReportToPb, optional_decoded _ _ _ cpu_round_trips,
      optional_decoded _ _ _ memory_round_trips, optional_decoded _ _ _ load_round_trips,
      optional_decoded _ _ _ network_round_trips, repeated_decoded _ _ _ disk_round_trips,
      repeated_decoded _ _ _ filesystem_round_trips]
  · rintro p ⟨cpu, memory, load, network⟩
    simp only [metricsReportFromPb, metricsReportToPb, optional_encoded _ _ cpu_round_trips _ p.cpu cpu,
      optional_encoded _ _ memory_round_trips _ p.memory memory, optional_encoded _ _ load_round_trips _ p.load load,
      optional_encoded _ _ network_round_trips _ p.network network, repeated_encoded _ _ disk_round_trips,
      repeated_encoded _ _ filesystem_round_trips]

-- What one crate writes the other reads, for the three messages of the agent and the two of the daemon.
theorem wire_round_trips :
    RoundTrips nodeInfoToPb nodeInfoFromPb (fun p => KnownRole p.role) ∧
      RoundTrips (metricsReportToPb (F := F)) metricsReportFromPb Complete ∧
      RoundTrips outcomeToPb outcomeFromPb (fun _ => True) ∧
      RoundTrips deploySpecToPb deploySpecFromPb (fun p => KnownDeployAction p.action) ∧
      RoundTrips fsSpecToPb fsSpecFromPb (fun p => KnownFsAction p.action) :=
  ⟨node_info_round_trips, metrics_report_round_trips, outcome_round_trips, deploy_spec_round_trips, fs_spec_round_trips⟩

end Messages

end Hpc.Wire
