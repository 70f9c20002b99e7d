import Hpc.Cli.Commands
import Hpc.Plane.Delivery

set_option autoImplicit false

namespace Hpc.Plane

open Hpc.Core Hpc.Wire Hpc.Daemon Hpc.Agent Hpc.Lib Executor

-- The system an operator drives with hpc alone: the relay, and the commands whose dispatch has been called, in the order of
-- the calls.
structure Invocation where
  uuid : String
  command : Cli.Command

structure Console where
  relay : Relay
  typed : List Invocation

inductive ConsoleLabel where
  | invoke (uuid : String) (connected : Bool) (command : Cli.Command)
  | internal (label : RelayLabel)

def callDispatch (id : NodeId) (command : NodeCommand) (relay : Relay) : Except HpcError Unit × Relay :=
  (.ok (), { relay with dispatches := relay.dispatches ++ [⟨id, command, .lookup⟩] })

-- Whether the node counts as connected is read before the call and may change until it.
def consoleStep (F : Type) (console : Console) : ConsoleLabel → Option Console
  | .invoke uuid connected command =>
      match command.invoke F (fun _ _ => connected) callDispatch uuid console.relay with
      | (.served (.ok _), relay) => some ⟨relay, console.typed ++ [⟨uuid, command⟩]⟩
      | (_, relay) => some ⟨relay, console.typed⟩
  | .internal (.callDispatch _ _) => none
  | .internal label => (relayStep console.relay label).map fun relay => ⟨relay, console.typed⟩

def Console.boot (nodes : Finset NodeId) : Console := ⟨Relay.boot nodes, []⟩

def Dispatch.order (dispatch : Dispatch) : NodeId × NodeCommand := (dispatch.node, dispatch.command)

def Invocation.order (invocation : Invocation) : NodeId × NodeCommand :=
  (invocation.command.id, invocation.command.meaning invocation.uuid)

structure Attributed (console : Console) : Prop where
  posted : Posted console.relay
  orders : console.relay.dispatches.map Dispatch.order = console.typed.map Invocation.order
  named : ∀ invocation ∈ console.typed, trimsToEmpty invocation.command.subject = false

theorem orders_set (dispatches : List Dispatch) (index : Nat) (old : Dispatch) (phase : DispatchPhase)
    (here : dispatches[index]? = some old) :
    (dispatches.set index { old with phase := phase }).map Dispatch.order = dispatches.map Dispatch.order := by
  apply List.ext_getElem?
  intro query
  rw [List.getElem?_map, List.getElem?_map, slot_set dispatches index query old _ here]
  by_cases same : index = query
  · rw [if_pos same, ← same, here]
    rfl
  · rw [if_neg same]

theorem orders_kept (relay next : Relay) (label : RelayLabel) (internal : ∀ id command, label ≠ .callDispatch id command)
    (taken : relayStep relay label = some next) :
    next.dispatches.map Dispatch.order = relay.dispatches.map Dispatch.order := by
  cases relay_step_moves relay next label taken with
  | callDispatch id command => exact absurd rfl (internal id command)
  | lookedUp index dispatch here phase => exact orders_set relay.dispatches index dispatch _ here
  | cloned index dispatch here phase => exact orders_set relay.dispatches index dispatch _ here
  | refused index sid dispatch s e here phase present closed => exact orders_set relay.dispatches index dispatch _ here
  | sent index sid dispatch s commands here phase present pushed => exact orders_set relay.dispatches index dispatch _ here
  | _ => rfl

theorem invoke_step (F : Type) (console next : Console) (uuid : String) (connected : Bool) (command : Cli.Command)
    (taken : consoleStep F console (.invoke uuid connected command) = some next) :
    next = console ∨ trimsToEmpty command.subject = false ∧
      relayStep console.relay (.callDispatch command.id (command.meaning uuid)) = some next.relay ∧
      next.typed = console.typed ++ [⟨uuid, command⟩] := by
  rw [consoleStep] at taken
  rcases Cli.invoke_spec F (fun _ _ => connected) callDispatch uuid command console.relay with
    ⟨e, refused⟩ | ⟨named, _, served⟩
  · rw [refused] at taken
    cases taken
    exact Or.inl rfl
  · rw [served] at taken
    cases taken
    exact Or.inr ⟨named, rfl, rfl⟩

theorem internal_eq (F : Type) (console : Console) (label : RelayLabel)
    (internal : ∀ id command, label ≠ .callDispatch id command) :
    consoleStep F console (.internal label) = (relayStep console.relay label).map fun relay => ⟨relay, console.typed⟩ := by
  cases label with
  | callDispatch id command => exact absurd rfl (internal id command)
  | _ => rfl

theorem internal_step (F : Type) (console next : Console) (label : RelayLabel)
    (taken : consoleStep F console (.internal label) = some next) :
    (∀ id command, label ≠ .callDispatch id command) ∧ relayStep console.relay label = some next.relay ∧
      next.typed = console.typed := by
  have internal : ∀ id command, label ≠ .callDispatch id command := by
    rintro id command rfl
    cases taken
  rw [internal_eq F console label internal] at taken
  obtain ⟨relay, stepped, rfl⟩ := Option.map_eq_some_iff.mp taken
  exact ⟨internal, stepped, rfl⟩

theorem attributed_step (F : Type) (console next : Console) (label : ConsoleLabel) (attributed : Attributed console)
    (taken : consoleStep F console label = some next) : Attributed next := by
  cases label with
  | invoke uuid connected command =>
      rcases invoke_step F console next uuid connected command taken with rfl | ⟨named, called, typed⟩
      · exact attributed
      · refine ⟨posted_step _ _ _ attributed.posted called, ?orders, ?named⟩
        case orders =>
          have grown : console.relay.dispatches ++ [⟨command.id, command.meaning uuid, .lookup⟩] = next.relay.dispatches :=
            congrArg Relay.dispatches (Option.some.inj called)
          rw [← grown, typed, List.map_append, List.map_append, attributed.orders]
          rfl
        case named =>
          intro invocation member
          rw [typed] at member
          rcases List.mem_append.mp member with earlier | last
          · exact attributed.named invocation earlier
          · rw [List.mem_singleton.mp last]
            exact named
  | internal label =>
      obtain ⟨internal, stepped, typed⟩ := internal_step F console next label taken
      refine ⟨posted_step _ _ _ attributed.posted stepped, ?_, typed ▸ attributed.named⟩
      rw [orders_kept _ _ label internal stepped, typed, attributed.orders]

theorem attributed_run (F : Type) (nodes : Finset NodeId) (labels : List ConsoleLabel) (console : Console)
    (ran : runFrom (consoleStep F) (Console.boot nodes) labels = some console) : Attributed console :=
  run_invariant (consoleStep F) Attributed
    (fun console label next attributed taken => attributed_step F console next label attributed taken)
    (Console.boot nodes) console labels ⟨posted_boot nodes, rfl, nofun⟩ ran

-- The processes a command is meant to start on its node. A deployment is only recorded, and a mount needs a device.
def processes : Cli.Command → List Argv
  | .deploy _ _ _ _ _ _ => []
  | .mount _ device mountPoint fsType opt =>
      if device = "" then []
      else
        let opts := ",".intercalate opt
        [⟨"mount", (if fsType = "" then [] else ["-t", fsType]) ++ (if opts = "" then [] else ["-o", opts]) ++
          [device, mountPoint]⟩]
  | .unmount _ mountPoint => [⟨"umount", [mountPoint]⟩]

theorem named_nonempty (text : String) (named : trimsToEmpty text = false) : text ≠ "" := by
  intro empty
  rw [empty] at named
  cases named

theorem meaning_processes (executor : Executor) (command : Cli.Command) (uuid : String) (sentAt : UInt64)
    (spawn : Argv → Spawn) (now : UInt64) (named : trimsToEmpty command.subject = false) :
    (executeCommand executor ⟨toPbCommand sentAt (command.meaning uuid), spawn, now⟩).spawned =
      if executor.allowExec = true then processes command else [] := by
  cases command with
  | deploy id component version action targetPath opt =>
      rw [processes, ite_self]
      rfl
  | mount id device mountPoint fsType opt =>
      have given : mountPoint ≠ "" := named_nonempty mountPoint named
      simp only [executeCommand, toPbCommand, Cli.Command.meaning, fs_spec_from_to_pb, run_fs_spec, processes, buildArgv]
      by_cases absent : device = ""
      · simp [absent, Except.toOption]
      · simp [absent, given, Except.toOption]
  | unmount id mountPoint =>
      have given : mountPoint ≠ "" := named_nonempty mountPoint named
      simp only [executeCommand, toPbCommand, Cli.Command.meaning, fs_spec_from_to_pb, run_fs_spec, processes, buildArgv]
      simp [given, Except.toOption]

def Obeyed (console : Console) (s : CommandStream) (execution : Execution) : Prop :=
  ∃ invocation, console.typed[execution.frame.call]? = some invocation ∧ invocation.command.id = s.node ∧
    execution.handled.spawned = (if s.executor.allowExec = true then processes invocation.command else []) ∧
    ∃ outcome, execution.handled.outcome = some outcome ∧
      outcome.commandId = (invocation.command.meaning invocation.uuid).commandId ∧ outcome.nodeId = s.node

theorem execution_obeyed (console : Console) (attributed : Attributed console) (sid : Nat) (s : CommandStream)
    (present : console.relay.streams[sid]? = some s) (execution : Execution) (done : execution ∈ s.executed) :
    Obeyed console s execution := by
  have posted := attributed.posted
  obtain ⟨delivery, ⟨_, sentAt, message⟩, found⟩ := executed_accepted console.relay posted sid s present execution done
  have order := congrArg (fun orders => orders[execution.frame.call]?) attributed.orders
  simp only [List.getElem?_map, found, Option.map_some] at order
  obtain ⟨invocation, typed, same⟩ := Option.map_eq_some_iff.mp order.symm
  have node : invocation.command.id = s.node := congrArg Prod.fst same
  have meaning : invocation.command.meaning invocation.uuid = delivery.command := congrArg Prod.snd same
  obtain ⟨spawn, now, handled⟩ := (posted.piped sid s present).performed execution done
  rw [message, ← meaning] at handled
  obtain ⟨payload, holds, named⟩ := to_pb_command_payload sentAt (invocation.command.meaning invocation.uuid)
  obtain ⟨outcome, answered, ids, agent⟩ := execute_command_outcome s.executor ⟨_, spawn, now⟩ payload holds
  refine ⟨invocation, typed, node, ?_, outcome, handled ▸ answered, ids.trans named, agent⟩
  rw [handled]
  exact meaning_processes s.executor invocation.command invocation.uuid sentAt spawn now
    (attributed.named invocation (List.mem_of_getElem? typed))

def CommandStream.calls (s : CommandStream) : List Nat := s.executed.map fun execution => execution.frame.call

theorem calls_nodup (relay : Relay) (posted : Posted relay) : (relay.streams.flatMap CommandStream.calls).Nodup := by
  apply List.nodup_flatMap.mpr
  apply And.intro
  · intro s member
    obtain ⟨sid, present⟩ := List.mem_iff_getElem?.mp member
    obtain ⟨front, whole, carried⟩ := executed_front s (posted.piped sid s present)
    have calls : (s.executed.map Execution.frame).map Frame.call = front.map Delivery.call :=
      related_map Carries Delivery.call Frame.call (fun _ _ carries => carries.1) _ _ carried
    rw [List.map_map] at calls
    have distinct : (front.map Delivery.call).Nodup :=
      (whole.sublist.map Delivery.call).nodup (posted.distinct sid s present)
    rw [← calls] at distinct
    exact distinct
  · apply List.pairwise_iff_getElem.mpr
    intro first second inside below before call here again
    obtain ⟨execution, done, rfl⟩ := List.mem_map.mp here
    obtain ⟨repeated, twice, same⟩ := List.mem_map.mp again
    obtain ⟨_, _, one⟩ := executed_accepted relay posted first _ (List.getElem?_eq_getElem inside) execution done
    obtain ⟨_, _, other⟩ := executed_accepted relay posted second _ (List.getElem?_eq_getElem below) repeated twice
    rw [same, one] at other
    have phases := congrArg Dispatch.phase (Option.some.inj other)
    have places : first = second := DispatchPhase.accepted.inj phases
    omega

-- Whatever the interleaving, the agents do what has been typed and no more: every process comes from one typed command, on
-- its node and in its words, and no command is run twice.
theorem operator_obeyed (F : Type) (nodes : Finset NodeId) (labels : List ConsoleLabel) (console : Console)
    (ran : runFrom (consoleStep F) (Console.boot nodes) labels = some console) :
    (∀ (sid : Nat) (s : CommandStream), console.relay.streams[sid]? = some s → ∀ execution ∈ s.executed,
      Obeyed console s execution) ∧ (console.relay.streams.flatMap CommandStream.calls).Nodup := by
  have attributed := attributed_run F nodes labels console ran
  apply And.intro
  · intro sid s present execution done
    exact execution_obeyed console attributed sid s present execution done
  · exact calls_nodup console.relay attributed.posted

def sampleTyped : List ConsoleLabel :=
  [.internal (.callStream sampleAgent), .internal (.stepStream 0), .internal (.stepStream 0),
    .invoke "u1" true (.mount "n1" "/dev/sdb1" "/mnt/data" "xfs" ["noatime", "ro"]), .internal (.stepDispatch 0),
    .internal (.stepDispatch 0), .internal (.stepDispatch 0), .internal (.stream 0 .recv),
    .internal (.stream 0 (.forward 1000)), .internal (.stream 0 .transmit),
    .internal (.stream 0 (.execute (fun _ => .exited (some 0) "" "") 1001))]

theorem mount_obeyed : ∃ console : Console, runFrom (consoleStep Unit) (Console.boot {"n1"}) sampleTyped = some console ∧
    console.relay.streams.map (fun s => s.executed.map fun execution => execution.handled.spawned) =
      [[[⟨"mount", ["-t", "xfs", "-o", "noatime,ro", "/dev/sdb1", "/mnt/data"]⟩]]] ∧
    ∀ (sid : Nat) (s : CommandStream), console.relay.streams[sid]? = some s → ∀ execution ∈ s.executed,
      Obeyed console s execution :=
  ⟨_, rfl, by decide, (operator_obeyed Unit {"n1"} sampleTyped _ rfl).1⟩

end Hpc.Plane
