import Hpc.Cli.Client
import Hpc.Plane.Console

set_option autoImplicit false

namespace Hpc.Plane

open Hpc.Core Hpc.Daemon Hpc.Agent Hpc.Lib

def DispatchPhase.result : DispatchPhase → Option (Except HpcError Unit)
  | .accepted _ => some (.ok ())
  | .refused e => some (.error e)
  | _ => none

def Invocation.answer (F : Type) (invocation : Invocation) (result : Except HpcError Unit) : Cli.Outcome :=
  (invocation.command.invoke F (fun _ _ => true) (fun _ _ _ => (result, ())) invocation.uuid ()).1

def Invocation.ack (invocation : Invocation) : Cli.DispatchAck :=
  ⟨(invocation.command.meaning invocation.uuid).commandId, invocation.command.id⟩

section Told

variable {F : Type} (text : Json F → String) (api : Cli.ApiClient)

structure Shows (console : Console) (call : Nat) (invocation : Invocation) (screen : Except Cli.ClientError String) : Prop where
  typed : console.typed[call]? = some invocation
  shown : ∃ dispatch result answer, console.relay.dispatches[call]? = some dispatch ∧
    dispatch.phase.result = some result ∧ invocation.answer F result = .served answer ∧
      screen = invocation.command.screen text api answer

theorem answered_step (relay next : Relay) (label : RelayLabel) (taken : relayStep relay label = some next) (call : Nat)
    (dispatch : Dispatch) (found : relay.dispatches[call]? = some dispatch) (answered : dispatch.phase.result ≠ none) :
    next.dispatches[call]? = some dispatch := by
  have kept : ∀ (index : Nat) (old new : Dispatch), relay.dispatches[index]? = some old → old.phase.result = none →
      (relay.dispatches.set index new)[call]? = some dispatch := by
    intro index old new here open_
    rw [slot_set relay.dispatches index call old new here, if_neg, found]
    intro same
    cases here.symm.trans (same ▸ found)
    exact answered open_
  cases relay_step_moves relay next label taken with
  | callDispatch node command => exact (List.getElem?_append_left (slot_bound _ _ _ found)).trans found
  | lookedUp index old here phase => exact kept index old _ here (by rw [phase]; rfl)
  | cloned index old here phase => exact kept index old _ here (by rw [phase]; rfl)
  | refused index held old s e here phase present closed => exact kept index old _ here (by rw [phase]; rfl)
  | sent index held old s commands here phase present pushed => exact kept index old _ here (by rw [phase]; rfl)
  | _ => exact found

theorem answered_console_step (console next : Console) (label : ConsoleLabel) (taken : consoleStep F console label = some next)
    (call : Nat) (dispatch : Dispatch) (found : console.relay.dispatches[call]? = some dispatch)
    (answered : dispatch.phase.result ≠ none) : next.relay.dispatches[call]? = some dispatch := by
  cases label with
  | invoke uuid connected command =>
      rcases invoke_step F console next uuid connected command taken with rfl | ⟨_, called, _⟩
      · exact found
      · exact answered_step console.relay next.relay _ called call dispatch found answered
  | internal label =>
      obtain ⟨_, stepped, _⟩ := internal_step F console next label taken
      exact answered_step console.relay next.relay label stepped call dispatch found answered

theorem typed_order (console : Console) (attributed : Attributed console) (call : Nat) (invocation : Invocation)
    (dispatch : Dispatch) (typed : console.typed[call]? = some invocation)
    (found : console.relay.dispatches[call]? = some dispatch) : dispatch.order = invocation.order := by
  have order := congrArg (fun orders => orders[call]?) attributed.orders
  simp only [List.getElem?_map, found, typed, Option.map_some] at order
  exact Option.some.inj order

theorem answer_spec (invocation : Invocation) (named : trimsToEmpty invocation.command.subject = false)
    (result : Except HpcError Unit) :
    invocation.answer F result =
      .served (Cli.acknowledge invocation.ack.commandId invocation.ack.nodeId result) := by
  obtain ⟨uuid, command⟩ := invocation
  cases command with
  | deploy id component version action targetPath opt =>
      have blank : trimsToEmpty component = false := named
      simp only [Invocation.answer, Cli.Command.invoke, Cli.postDeploy, Cli.read_deploy_body, deploy, blank]
      cases result <;> rfl
  | mount id device mountPoint fsType opt =>
      have blank : trimsToEmpty mountPoint = false := named
      simp only [Invocation.answer, Cli.Command.invoke, Cli.postFs, Cli.read_mount_body, fsCommand, blank]
      cases result <;> rfl
  | unmount id mountPoint =>
      have blank : trimsToEmpty mountPoint = false := named
      simp only [Invocation.answer, Cli.Command.invoke, Cli.postFs, Cli.read_unmount_body, fsCommand, blank]
      cases result <;> rfl

theorem accepted_entered (relay : Relay) (posted : Posted relay) (call sid : Nat) (dispatch : Dispatch)
    (found : relay.dispatches[call]? = some dispatch) (accepted : dispatch.phase = .accepted sid) :
    ∃ s : CommandStream, relay.streams[sid]? = some s ∧ s.node = dispatch.node ∧
      ⟨call, dispatch.command⟩ ∈ s.commands.pushed := by
  obtain ⟨s, present, node⟩ := posted.addressed call dispatch found sid (Or.inr accepted)
  refine ⟨s, present, node, ?_⟩
  rw [posted.entered sid s present, found, node, ← accepted]

theorem execution_named (console : Console) (attributed : Attributed console) (sid : Nat) (s : CommandStream)
    (present : console.relay.streams[sid]? = some s) (execution : Execution) (done : execution ∈ s.executed)
    (dispatch : Dispatch) (found : console.relay.dispatches[execution.frame.call]? = some dispatch) :
    dispatch.phase = .accepted sid ∧ ∃ outcome, execution.handled.outcome = some outcome ∧
      outcome.commandId = dispatch.command.commandId ∧ outcome.nodeId = dispatch.node := by
  obtain ⟨delivery, _, accepted⟩ := executed_accepted console.relay attributed.posted sid s present execution done
  cases found.symm.trans accepted
  obtain ⟨invocation, typed, node, _, outcome, reported, id, agent⟩ :=
    execution_obeyed console attributed sid s present execution done
  have order := typed_order console attributed _ invocation _ typed found
  exact ⟨rfl, outcome, reported, id.trans (congrArg (fun asked => asked.2.commandId) order).symm, agent⟩

-- What hpc prints is true, whatever happens before and after. A command shown as accepted is in the channel of a stream of
-- its node, and whenever it is run its outcome has the id and the node on the screen; one shown as refused is never run.
theorem operator_told (nodes : Finset NodeId) (before after : List ConsoleLabel) (console finish : Console)
    (ran : runFrom (consoleStep F) (Console.boot nodes) before = some console)
    (continued : runFrom (consoleStep F) console after = some finish) (call : Nat) (invocation : Invocation)
    (screen : Except Cli.ClientError String) (shows : Shows text api console call invocation screen) :
    (∀ shown, screen = .ok shown → shown = invocation.command.announce invocation.ack ∧
      (∃ (sid : Nat) (s : CommandStream), console.relay.streams[sid]? = some s ∧ s.node = invocation.ack.nodeId ∧
        ⟨call, invocation.command.meaning invocation.uuid⟩ ∈ s.commands.pushed) ∧
      ∀ (sid : Nat) (s : CommandStream), finish.relay.streams[sid]? = some s → ∀ execution ∈ s.executed,
        execution.frame.call = call → ∃ outcome, execution.handled.outcome = some outcome ∧
          outcome.commandId = invocation.ack.commandId ∧ outcome.nodeId = invocation.ack.nodeId) ∧
    ∀ e, screen = .error e → ∀ (sid : Nat) (s : CommandStream), finish.relay.streams[sid]? = some s →
      ∀ execution ∈ s.executed, execution.frame.call ≠ call := by
  have attributed := attributed_run F nodes before console ran
  have whole := (run_append (consoleStep F) (Console.boot nodes) finish before after).mpr ⟨console, ran, continued⟩
  have later := attributed_run F nodes (before ++ after) finish whole
  obtain ⟨typed, dispatch, result, answer, found, returned, answered, shown⟩ := shows
  have order := typed_order console attributed call invocation dispatch typed found
  have node : dispatch.node = invocation.command.id := congrArg Prod.fst order
  have meaning : dispatch.command = invocation.command.meaning invocation.uuid := congrArg Prod.snd order
  have kept : finish.relay.dispatches[call]? = some dispatch :=
    run_invariant (consoleStep F) (fun console => console.relay.dispatches[call]? = some dispatch)
      (fun console label next found taken => answered_console_step console next label taken call dispatch found
        (by rw [returned]; exact Option.some_ne_none _)) console finish after found continued
  rw [answer_spec invocation (attributed.named invocation (List.mem_of_getElem? typed)), Cli.Outcome.served.injEq] at answered
  rw [← answered, Cli.command_screen] at shown
  cases phase : dispatch.phase with
  | accepted sid =>
      rw [phase] at returned
      cases returned
      apply And.intro
      · intro line printed
        refine ⟨(Except.ok.inj (shown.symm.trans printed)).symm, ?_, ?_⟩
        · obtain ⟨s, present, own, entered⟩ :=
            accepted_entered console.relay attributed.posted call sid dispatch found phase
          exact ⟨sid, s, present, own.trans node, meaning ▸ entered⟩
        · intro query s present execution done this
          obtain ⟨_, outcome, reported, id, agent⟩ :=
            execution_named finish later query s present execution done dispatch (this ▸ kept)
          exact ⟨outcome, reported, id.trans (congrArg _ meaning), agent.trans node⟩
      · intro e failed
        cases shown.symm.trans failed
  | refused cause =>
      rw [phase] at returned
      cases returned
      apply And.intro
      · intro line printed
        cases shown.symm.trans printed
      · intro e failed query s present execution done this
        obtain ⟨accepted, _⟩ := execution_named finish later query s present execution done dispatch (this ▸ kept)
        cases phase.symm.trans accepted
  | lookup => rw [phase] at returned; cases returned
  | clone => rw [phase] at returned; cases returned
  | sending sid => rw [phase] at returned; cases returned

end Told

def sampleScreen : Except Cli.ClientError String := .ok "mount accepted: command=fs-u1 node=n1 (/dev/sdb1 -> /mnt/data)"

theorem mount_told : ∃ console finish : Console,
    runFrom (consoleStep Unit) (Console.boot {"n1"}) (sampleTyped.take 7) = some console ∧
    runFrom (consoleStep Unit) console (sampleTyped.drop 7) = some finish ∧
    ∀ (sid : Nat) (s : CommandStream), finish.relay.streams[sid]? = some s → ∀ execution ∈ s.executed,
      execution.frame.call = 0 → ∃ outcome, execution.handled.outcome = some outcome ∧ outcome.commandId = "fs-u1" ∧
        outcome.nodeId = "n1" :=
  ⟨_, _, rfl, rfl, ((operator_told (F := Unit) (fun _ => "") (.new "http://127.0.0.1:8080/") {"n1"} (sampleTyped.take 7)
    (sampleTyped.drop 7) _ _ rfl rfl 0 ⟨"u1", .mount "n1" "/dev/sdb1" "/mnt/data" "xfs" ["noatime", "ro"]⟩ sampleScreen
    ⟨rfl, _, _, _, rfl, rfl, rfl, rfl⟩).1 _ rfl).2.2⟩

end Hpc.Plane
