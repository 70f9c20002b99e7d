import Hpc.Agent.Executor

set_option autoImplicit false

namespace Hpc.Agent

open Hpc.Core

-- What an action asks for: the fields it uses, and no others.
inductive Intent where
  | mount (fsType opts device mountPoint : String)
  | unmount (mountPoint : String)
  | remount (opts mountPoint : String)
  | check (device : String)
  | format (fsType device : String)
deriving DecidableEq, Repr

def intent (spec : FsSpec) : Intent :=
  let opts := ",".intercalate spec.mountOptions
  match spec.action with
  | .mount => .mount spec.fsType opts spec.device spec.mountPoint
  | .unmount => .unmount spec.mountPoint
  | .remount => .remount opts spec.mountPoint
  | .check => .check spec.device
  | .format => .format spec.fsType spec.device

namespace Intent

def action : Intent → FsAction
  | .mount _ _ _ _ => .mount
  | .unmount _ => .unmount
  | .remount _ _ => .remount
  | .check _ => .check
  | .format _ _ => .format

def layout : Intent → Executor.Argv
  | .mount fsType opts device mountPoint =>
      ⟨"mount", (if fsType = "" then [] else ["-t", fsType]) ++ (if opts = "" then [] else ["-o", opts]) ++ [device, mountPoint]⟩
  | .unmount mountPoint => ⟨"umount", [mountPoint]⟩
  | .remount opts mountPoint => ⟨"mount", ["-o", if opts = "" then "remount" else "remount," ++ opts, mountPoint]⟩
  | .check device => ⟨"fsck", ["-n", device]⟩
  | .format fsType device => ⟨"mkfs." ++ fsType, [device]⟩

-- The options behind "remount,", and none behind "remount" alone.
def remounted (value : String) : String := if value = "remount" then "" else String.ofList (value.toList.drop 8)

-- The number of arguments tells the forms of a mount apart.
def readMount : List String → Option Intent
  | [device, mountPoint] => some (.mount "" "" device mountPoint)
  | [_, value, mountPoint] => some (.remount (remounted value) mountPoint)
  | [flag, value, device, mountPoint] =>
      if flag = "-t" then some (.mount value "" device mountPoint) else some (.mount "" value device mountPoint)
  | [_, fsType, _, opts, device, mountPoint] => some (.mount fsType opts device mountPoint)
  | _ => none

def readBack (argv : Executor.Argv) : Option Intent :=
  if argv.program = "mount" then readMount argv.args
  else if argv.program = "umount" then argv.args.head?.map .unmount
  else if argv.program = "fsck" then argv.args.getLast?.map .check
  else argv.args.head?.map (.format (String.ofList (argv.program.toList.drop 5)))

theorem remounted_bare : remounted "remount" = "" := rfl

theorem remounted_options (opts : String) : remounted ("remount," ++ opts) = opts := by
  have longer : "remount," ++ opts ≠ "remount" := by
    intro same
    have lengths := congrArg List.length (congrArg String.toList same)
    simp at lengths
  rw [remounted, if_neg longer]
  simp

theorem mkfs_other (fsType program : String) (other : program.toList.take 5 ≠ "mkfs.".toList) : "mkfs." ++ fsType ≠ program := by
  intro same
  apply other
  rw [← same]
  simp

theorem mkfs_apart (fsType : String) :
    "mkfs." ++ fsType ≠ "mount" ∧ "mkfs." ++ fsType ≠ "umount" ∧ "mkfs." ++ fsType ≠ "fsck" :=
  ⟨mkfs_other fsType "mount" (by decide), mkfs_other fsType "umount" (by decide), mkfs_other fsType "fsck" (by decide)⟩

theorem read_back_layout (intent : Intent) : readBack intent.layout = some intent := by
  cases intent with
  | mount fsType opts device mountPoint =>
      by_cases untyped : fsType = ""
      · by_cases plain : opts = ""
        · simp [layout, readBack, readMount, untyped, plain]
        · simp [layout, readBack, readMount, untyped, plain]
      · by_cases plain : opts = ""
        · simp [layout, readBack, readMount, untyped, plain]
        · simp [layout, readBack, readMount, untyped, plain]
  | unmount mountPoint => rfl
  | remount opts mountPoint =>
      by_cases plain : opts = ""
      · simp [layout, readBack, readMount, plain, remounted_bare]
      · simp [layout, readBack, readMount, plain, remounted_options]
  | check device => rfl
  | format fsType device =>
      obtain ⟨first, second, third⟩ := mkfs_apart fsType
      simp [layout, readBack, first, second, third]

theorem layout_injective (first second : Intent) (same : first.layout = second.layout) : first = second := by
  have read := congrArg readBack same
  rw [read_back_layout, read_back_layout] at read
  exact Option.some.inj read

end Intent

theorem intent_action (spec : FsSpec) : (intent spec).action = spec.action := by
  rw [intent]
  cases spec.action <;> rfl

theorem build_argv_layout (spec : FsSpec) (argv : Executor.Argv) (built : Executor.buildArgv spec = .ok argv) :
    argv = (intent spec).layout := by
  rw [Executor.buildArgv] at built
  rw [intent]
  cases action : spec.action with
  | mount =>
      simp only [action] at built
      exact (Except.ok.inj (passed_test built).2).symm
  | unmount =>
      simp only [action] at built
      exact (Except.ok.inj (passed_test built).2).symm
  | remount =>
      simp only [action] at built
      exact (Except.ok.inj (passed_test built).2).symm
  | check =>
      simp only [action] at built
      exact (Except.ok.inj (passed_test built).2).symm
  | format =>
      -- Two tests, of the force flag and of the fields.
      simp only [action] at built
      have forced := (passed_test built).2
      exact (Except.ok.inj (passed_test forced).2).symm

theorem same_argv_same_intent (first second : FsSpec) (argv : Executor.Argv) (one : Executor.buildArgv first = .ok argv)
    (other : Executor.buildArgv second = .ok argv) : first.action = second.action ∧ intent first = intent second := by
  have same : intent first = intent second := by
    apply Intent.layout_injective
    rw [← build_argv_layout first argv one, ← build_argv_layout second argv other]
  have action : first.action = second.action := by rw [← intent_action first, same, intent_action]
  exact ⟨action, same⟩

section Samples

-- A device that looks like an option, once with an unused option list that is empty and once with one of empty strings.
def oddMount (id : String) (options : List String) : FsSpec := ⟨id, .mount, "-t", "ext4", "", options, false⟩

theorem odd_mounts_same_intent :
    FsAction.mount = FsAction.mount ∧ intent (oddMount "a" []) = intent (oddMount "b" [""]) :=
  same_argv_same_intent (oddMount "a" []) (oddMount "b" [""]) ⟨"mount", ["-t", "ext4"]⟩ rfl rfl

end Samples

end Hpc.Agent
