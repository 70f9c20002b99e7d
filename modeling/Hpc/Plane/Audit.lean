import Hpc.Lib.Runs
import Hpc.Agent.Client
import Hpc.Daemon.Grpc

set_option autoImplicit false

namespace Hpc.Plane

open Hpc.Core Hpc.Wire Hpc.Daemon Hpc.Agent Hpc.Lib

-- Where the agent stands in its run and session loops. The outcome of a command is a local variable of handle_command: it is
-- moved into the report.
inductive Phase where
  | disconnected
  | connected
  | registered
  | streaming
  | executing (arrival : Arrival)
  | holding (outcome : CommandOutcome)
  | awaiting (rpc : Nat)

structure Report where
  rpc : Nat
  result : Pb.CommandResult

structure Trail (Bytes : Type) where
  phase : Phase
  executed : List CommandOutcome
  sent : Nat
  wire : List Report
  answers : List (Nat × Except Status Ack)
  store : Store Bytes

inductive Happening where
  | connect (ok : Bool)
  | register (ok : Bool)
  | openStream (ok : Bool)
  | periodic (ok : Bool)
  | streamEnds
  | receive (arrival : Arrival)
  | finish
  | send
  | sendFails
  | lose (index : Nat)
  | deliver (index : Nat) (txn : Txn)
  | acked
  | rpcFails
  | otherAgent (txn : Txn) (result : Pb.CommandResult)

section Machine

variable {Bytes : Type} (executor : Executor) (codec : Codec CommandOutcome Bytes)

def Trail.advance (trail : Trail Bytes) (expected : Phase → Bool) (phase : Phase) : Option (Trail Bytes) :=
  if expected trail.phase then some { trail with phase := phase } else none

-- Any error ends the session, and the next one starts from nothing. A report can fail before it is sent, on its way, at the
-- daemon, or on the way back.
def trailStep (trail : Trail Bytes) : Happening → Option (Trail Bytes)
  | .connect ok => trail.advance (· matches .disconnected) (if ok then .connected else .disconnected)
  | .register ok => trail.advance (· matches .connected) (if ok then .registered else .disconnected)
  | .openStream ok => trail.advance (· matches .registered) (if ok then .streaming else .disconnected)
  | .periodic ok => trail.advance (· matches .streaming) (if ok then .streaming else .disconnected)
  | .streamEnds => trail.advance (· matches .streaming) .disconnected
  | .receive arrival => trail.advance (· matches .streaming) (.executing arrival)
  | .rpcFails => trail.advance (· matches .awaiting _) .disconnected
  | .finish =>
      match trail.phase with
      | .executing arrival =>
          match (executeCommand executor arrival).outcome with
          | none => some { trail with phase := .streaming }
          | some outcome => some { trail with phase := .holding outcome, executed := trail.executed ++ [outcome] }
      | _ => none
  | .send =>
      match trail.phase with
      | .holding outcome => some { trail with
          phase := .awaiting trail.sent
          sent := trail.sent + 1
          wire := trail.wire ++ [⟨trail.sent, outcomeToPb outcome⟩] }
      | _ => none
  | .sendFails =>
      match trail.phase with
      | .holding _ => some { trail with phase := .disconnected }
      | _ => none
  | .lose index => (trail.wire[index]?).map fun _ => { trail with wire := trail.wire.eraseIdx index }
  | .deliver index txn => (trail.wire[index]?).map fun report =>
      let (answer, store) := Grpc.reportCommandResult codec txn report.result trail.store
      { trail with wire := trail.wire.eraseIdx index, answers := trail.answers ++ [(report.rpc, answer)], store := store }
  | .acked =>
      match trail.phase with
      | .awaiting rpc =>
          if trail.answers.any fun (call, answer) => call == rpc && answer.toBool then
            some { trail with phase := .streaming }
          else none
      | _ => none
  | .otherAgent txn result => some { trail with store := (Grpc.reportCommandResult codec txn result trail.store).2 }

def InTable (store : Store Bytes) (outcome : CommandOutcome) : Prop :=
  store.outcomes[outcome.commandId]? = some (codec.toVec outcome)

def Accounted (trail : Trail Bytes) (outcome : CommandOutcome) : Prop :=
  InTable codec trail.store outcome ∨ (∃ report ∈ trail.wire, report.result = outcomeToPb outcome) ∨
    trail.phase = .holding outcome

def AuditComplete (trail : Trail Bytes) : Prop := ∀ outcome ∈ trail.executed, Accounted codec trail outcome

def RowFree (store : Store Bytes) (outcome : CommandOutcome) : Prop :=
  store.outcomes[outcome.commandId]? = none ∨ InTable codec store outcome

def Reaches (trail : Trail Bytes) : Happening → Prop
  | .sendFails => False
  | .lose _ => False
  | .deliver index txn => txn = .commits ∧ ∀ report ∈ trail.wire[index]?, RowFree codec trail.store (outcomeFromPb report.result)
  | .otherAgent txn result => txn = .commits → RowFree codec trail.store (outcomeFromPb result)
  | _ => True

instance [DecidableEq Bytes] (store : Store Bytes) (outcome : CommandOutcome) : Decidable (InTable codec store outcome) :=
  inferInstanceAs (Decidable (_ = _))

instance [DecidableEq Bytes] (store : Store Bytes) (outcome : CommandOutcome) : Decidable (RowFree codec store outcome) :=
  inferInstanceAs (Decidable (_ ∨ _))

instance [DecidableEq Bytes] (trail : Trail Bytes) : ∀ happening, Decidable (Reaches codec trail happening)
  | .deliver index txn => inferInstanceAs (Decidable (txn = .commits ∧
      ∀ report ∈ trail.wire[index]?, RowFree codec trail.store (outcomeFromPb report.result)))
  | .otherAgent txn result =>
      inferInstanceAs (Decidable (txn = .commits → RowFree codec trail.store (outcomeFromPb result)))
  | .sendFails => isFalse id
  | .lose _ => isFalse id
  | .connect _ | .register _ | .openStream _ | .periodic _ | .streamEnds | .receive _ | .finish | .send | .acked | .rpcFails =>
      isTrue trivial

theorem report_commits (result : Pb.CommandResult) (store : Store Bytes) :
    (Grpc.reportCommandResult codec .commits result store).2 =
      { store with outcomes := store.outcomes.insert result.commandId (codec.toVec (outcomeFromPb result)) } := rfl

theorem in_table_after (result : Pb.CommandResult) (store : Store Bytes) (outcome : CommandOutcome)
    (free : RowFree codec store (outcomeFromPb result)) (before : InTable codec store outcome) :
    InTable codec (Grpc.reportCommandResult codec .commits result store).2 outcome := by
  rw [report_commits, InTable, lookup_insert]
  by_cases same : result.commandId = outcome.commandId
  · rw [if_pos same]
    have row : store.outcomes[result.commandId]? = some (codec.toVec outcome) := by rw [same]; exact before
    rcases free with empty | kept
    · rw [show (outcomeFromPb result).commandId = result.commandId from rfl, row] at empty
      cases empty
    · rw [InTable, show (outcomeFromPb result).commandId = result.commandId from rfl, row] at kept
      exact kept.symm
  · rw [if_neg same]
    exact before

theorem in_table_recorded (store : Store Bytes) (outcome : CommandOutcome) :
    InTable codec (Grpc.reportCommandResult codec .commits (outcomeToPb outcome) store).2 outcome := by
  rw [report_commits, InTable, lookup_insert, if_pos (show (outcomeToPb outcome).commandId = outcome.commandId from rfl),
    outcome_from_to_pb]

theorem audit_phase (trail : Trail Bytes) (phase : Phase) (complete : AuditComplete codec trail)
    (empty : ∀ outcome, trail.phase ≠ .holding outcome) : AuditComplete codec { trail with phase := phase } := by
  intro outcome done
  rcases complete outcome done with recorded | flying | held
  · exact Or.inl recorded
  · exact Or.inr (Or.inl flying)
  · exact absurd held (empty outcome)

theorem audit_advance (trail next : Trail Bytes) (expected : Phase → Bool) (phase : Phase)
    (complete : AuditComplete codec trail) (taken : trail.advance expected phase = some next)
    (other : ∀ outcome, expected (.holding outcome) = false) : AuditComplete codec next := by
  rw [Trail.advance] at taken
  by_cases here : expected trail.phase = true
  · rw [if_pos here] at taken
    cases taken
    apply audit_phase codec trail phase complete
    intro outcome held
    rw [held, other outcome] at here
    cases here
  · rw [if_neg here] at taken
    cases taken

theorem audit_finish (trail next : Trail Bytes) (complete : AuditComplete codec trail)
    (taken : trailStep executor codec trail .finish = some next) : AuditComplete codec next := by
  simp only [trailStep] at taken
  cases phase : trail.phase with
  | executing arrival =>
      have empty : ∀ outcome, trail.phase ≠ .holding outcome := fun outcome held => nomatch phase.symm.trans held
      rw [phase] at taken
      cases produced : (executeCommand executor arrival).outcome with
      | none =>
          simp only [produced, Option.some.injEq] at taken
          exact taken ▸ audit_phase codec trail .streaming complete empty
      | some result =>
          simp only [produced, Option.some.injEq] at taken
          subst taken
          intro outcome done
          rcases List.mem_append.mp done with old | new
          · exact audit_phase codec trail (.holding result) complete empty outcome old
          · have same : outcome = result := List.mem_singleton.mp new
            exact Or.inr (Or.inr (by rw [same]))
  | _ => simp [phase] at taken

theorem audit_send (trail next : Trail Bytes) (complete : AuditComplete codec trail)
    (taken : trailStep executor codec trail .send = some next) : AuditComplete codec next := by
  simp only [trailStep] at taken
  cases phase : trail.phase with
  | holding result =>
      simp only [phase, Option.some.injEq] at taken
      subst taken
      intro outcome done
      rcases complete outcome done with recorded | ⟨flying, member, carries⟩ | held
      · exact Or.inl recorded
      · exact Or.inr (Or.inl ⟨flying, List.mem_append_left _ member, carries⟩)
      · rw [phase] at held
        cases held
        exact Or.inr (Or.inl ⟨⟨trail.sent, outcomeToPb result⟩, List.mem_append_right _ (List.mem_singleton_self _), rfl⟩)
  | _ => simp [phase] at taken

theorem audit_acked (trail next : Trail Bytes) (complete : AuditComplete codec trail)
    (taken : trailStep executor codec trail .acked = some next) : AuditComplete codec next := by
  simp only [trailStep] at taken
  cases phase : trail.phase with
  | awaiting rpc =>
      rw [phase] at taken
      by_cases answered : (trail.answers.any fun (call, answer) => call == rpc && answer.toBool) = true
      · simp only [answered, if_true, Option.some.injEq] at taken
        exact taken ▸ audit_phase codec trail .streaming complete fun outcome held => nomatch phase.symm.trans held
      · simp [answered] at taken
  | _ => simp [phase] at taken

theorem audit_deliver (trail next : Trail Bytes) (index : Nat) (txn : Txn) (complete : AuditComplete codec trail)
    (reaches : Reaches codec trail (.deliver index txn))
    (taken : trailStep executor codec trail (.deliver index txn) = some next) : AuditComplete codec next := by
  obtain ⟨rfl, free⟩ := reaches
  obtain ⟨report, found, rfl⟩ := Option.map_eq_some_iff.mp taken
  intro outcome done
  rcases complete outcome done with recorded | ⟨flying, member, carries⟩ | held
  · exact Or.inl (in_table_after codec report.result trail.store outcome (free report found) recorded)
  · by_cases this : report.result = outcomeToPb outcome
    · apply Or.inl
      change InTable codec (Grpc.reportCommandResult codec .commits report.result trail.store).2 outcome
      rw [this]
      exact in_table_recorded codec trail.store outcome
    · refine Or.inr (Or.inl ⟨flying, ?_, carries⟩)
      obtain ⟨position, here⟩ := List.getElem?_of_mem member
      have elsewhere : position ≠ index := by
        intro same
        rw [same, found] at here
        cases here
        exact this carries
      exact List.mem_eraseIdx_iff_getElem?.mpr ⟨position, elsewhere, here⟩
  · exact Or.inr (Or.inr held)

theorem audit_other (trail next : Trail Bytes) (txn : Txn) (result : Pb.CommandResult) (complete : AuditComplete codec trail)
    (reaches : Reaches codec trail (.otherAgent txn result))
    (taken : trailStep executor codec trail (.otherAgent txn result) = some next) : AuditComplete codec next := by
  cases taken
  intro outcome done
  rcases complete outcome done with recorded | flying | held
  · cases txn with
    | commits => exact Or.inl (in_table_after codec result trail.store outcome (reaches rfl) recorded)
    | fails message => exact Or.inl recorded
  · exact Or.inr (Or.inl flying)
  · exact Or.inr (Or.inr held)

theorem audit_step (trail next : Trail Bytes) (happening : Happening) (complete : AuditComplete codec trail)
    (reaches : Reaches codec trail happening) (taken : trailStep executor codec trail happening = some next) :
    AuditComplete codec next := by
  cases happening with
  | connect ok =>
      simp only [trailStep] at taken
      exact audit_advance codec trail next _ _ complete taken fun _ => rfl
  | register ok =>
      simp only [trailStep] at taken
      exact audit_advance codec trail next _ _ complete taken fun _ => rfl
  | openStream ok =>
      simp only [trailStep] at taken
      exact audit_advance codec trail next _ _ complete taken fun _ => rfl
  | periodic ok =>
      simp only [trailStep] at taken
      exact audit_advance codec trail next _ _ complete taken fun _ => rfl
  | streamEnds =>
      simp only [trailStep] at taken
      exact audit_advance codec trail next _ _ complete taken fun _ => rfl
  | receive arrival =>
      simp only [trailStep] at taken
      exact audit_advance codec trail next _ _ complete taken fun _ => rfl
  | rpcFails =>
      simp only [trailStep] at taken
      exact audit_advance codec trail next _ _ complete taken fun _ => rfl
  | finish => exact audit_finish executor codec trail next complete taken
  | send => exact audit_send executor codec trail next complete taken
  | sendFails => exact absurd reaches id
  | lose index => exact absurd reaches id
  | deliver index txn => exact audit_deliver executor codec trail next index txn complete reaches taken
  | acked => exact audit_acked executor codec trail next complete taken
  | otherAgent txn result => exact audit_other executor codec trail next txn result complete reaches taken

theorem audit_complete_of_reaches (store : Store Bytes) (happenings : List Happening)
    (reaches : Obeys (trailStep executor codec) (Reaches codec) ⟨.disconnected, [], 0, [], [], store⟩ happenings) :
    Throughout (trailStep executor codec) (AuditComplete codec) ⟨.disconnected, [], 0, [], [], store⟩ happenings :=
  throughout_of_obeys (trailStep executor codec) (AuditComplete codec) (Reaches codec)
    (fun trail happening next complete rule taken => audit_step executor codec trail next happening complete rule taken)
    _ happenings (fun _ done => nomatch done) reaches

end Machine

section Samples

def plainOutcomes : Codec CommandOutcome CommandOutcome := ⟨id, .ok⟩

def unmountArrival : Arrival :=
  ⟨toPbCommand 1000 (.fs ⟨"c1", .unmount, "", "/mnt/data", "", [], false⟩), fun _ => .exited (some 0) "" "", 1001⟩

def unmountOutcome : CommandOutcome := ⟨"c1", "n1", true, 0, "`umount /mnt/data` exited with 0", "", "", 1001⟩

def idleTrail : Trail CommandOutcome := ⟨.disconnected, [], 0, [], [], Store.fresh⟩

def executedOnce : List Happening := [.connect true, .register true, .openStream true, .receive unmountArrival, .finish]

def trailAfter (rest : List Happening) : Trail CommandOutcome :=
  (runFrom (trailStep ⟨"n1", true⟩ plainOutcomes) idleTrail (executedOnce ++ rest)).getD idleTrail

theorem reported_audit_complete :
    Throughout (trailStep ⟨"n1", true⟩ plainOutcomes) (AuditComplete plainOutcomes) idleTrail
      (executedOnce ++ [.send, .deliver 0 .commits, .acked]) :=
  audit_complete_of_reaches ⟨"n1", true⟩ plainOutcomes Store.fresh _ (by decide)

theorem failed_report_forgotten :
    runFrom (trailStep ⟨"n1", true⟩ plainOutcomes) idleTrail (executedOnce ++ [.sendFails]) = some (trailAfter [.sendFails]) ∧
      unmountOutcome ∈ (trailAfter [.sendFails]).executed ∧ ¬ AuditComplete plainOutcomes (trailAfter [.sendFails]) := by
  refine ⟨rfl, by decide, ?_⟩
  intro complete
  rcases complete unmountOutcome (by decide) with recorded | ⟨report, member, _⟩ | held
  · exact absurd recorded (by decide)
  · cases member
  · cases held

end Samples

end Hpc.Plane
