import Hpc.Agent.Argv
import Hpc.Daemon.Api

set_option autoImplicit false

namespace Hpc.Agent

open Hpc.Core Hpc.Daemon

def dashed (word : String) : Bool := word.toList.head? == some '-'

-- The words among which a tool looks for options: all but the arguments of the options that take one.
def scanned (takesArgument : String → Bool) : List String → List String
  | [] => []
  | [word] => [word]
  | word :: next :: rest =>
      if takesArgument word then word :: scanned takesArgument rest else word :: scanned takesArgument (next :: rest)

def takesArgument (program word : String) : Bool := program == "mount" && (word == "-t" || word == "-o")

def optionsSeen (argv : Executor.Argv) : List String := (scanned (takesArgument argv.program) argv.args).filter dashed

def operandsSeen (argv : Executor.Argv) : List String :=
  (scanned (takesArgument argv.program) argv.args).filter fun word => !dashed word

def Intent.ownOptions : Intent → List String
  | .mount fsType opts _ _ => (if fsType = "" then [] else ["-t"]) ++ (if opts = "" then [] else ["-o"])
  | .remount _ _ => ["-o"]
  | .check _ => ["-n"]
  | .unmount _ | .format _ _ => []

structure Confined (wanted : Intent) (argv : Executor.Argv) : Prop where
  program : argv.program ∈ ["mount", "umount", "fsck"] ∨ ∃ fsType, argv.program = "mkfs." ++ fsType ∧ '/' ∉ fsType.toList
  options : optionsSeen argv = wanted.ownOptions
  unmounts : ∀ mountPoint, wanted = .unmount mountPoint →
    argv.program = "umount" ∧ optionsSeen argv = [] ∧ operandsSeen argv = [mountPoint]
  checks : ∀ device, wanted = .check device →
    argv.program = "fsck" ∧ optionsSeen argv = ["-n"] ∧ operandsSeen argv = [device]

-- The fields that stand where the tool looks for options.
def Intent.operands : Intent → List String
  | .mount _ _ device mountPoint => [device, mountPoint]
  | .unmount mountPoint | .remount _ mountPoint => [mountPoint]
  | .check device | .format _ device => [device]

-- None of these begins with a dash, and the type in the name of a program leads to no other file.
structure Harmless (wanted : Intent) : Prop where
  undashed : ∀ word ∈ wanted.operands, dashed word = false
  plain : ∀ fsType device, wanted = .format fsType device → '/' ∉ fsType.toList

theorem takes_undashed (program word : String) (plain : dashed word = false) : takesArgument program word = false := by
  by_contra taken
  simp only [takesArgument, Bool.not_eq_false, Bool.and_eq_true, Bool.or_eq_true, beq_iff_eq] at taken
  obtain ⟨_, rfl | rfl⟩ := taken
  · cases plain
  · cases plain

theorem scanned_pair (takes : String → Bool) (first second : String)
    (undashed : dashed first = false → takes first = false) :
    (scanned takes [first, second]).filter dashed = [] ↔ dashed first = false ∧ dashed second = false := by
  cases plain : dashed first with
  | false =>
      rw [scanned, undashed plain]
      simp [scanned, plain]
  | true =>
      cases taken : takes first <;> simp [scanned, plain, taken]

theorem mount_options (fsType opts device mountPoint : String) :
    optionsSeen (Intent.mount fsType opts device mountPoint).layout = (Intent.mount fsType opts device mountPoint).ownOptions ↔
      dashed device = false ∧ dashed mountPoint = false := by
  rw [← scanned_pair (takesArgument "mount") device mountPoint (takes_undashed "mount" device)]
  have type : takesArgument "mount" "-t" = true := rfl
  have option : takesArgument "mount" "-o" = true := rfl
  have dashT : dashed "-t" = true := rfl
  have dashO : dashed "-o" = true := rfl
  by_cases untyped : fsType = ""
  · by_cases plain : opts = ""
    · simp [optionsSeen, Intent.layout, Intent.ownOptions, untyped, plain]
    · simp [optionsSeen, Intent.layout, Intent.ownOptions, untyped, plain, scanned, option, dashO]
  · by_cases plain : opts = ""
    · simp [optionsSeen, Intent.layout, Intent.ownOptions, untyped, plain, scanned, type, dashT]
    · simp [optionsSeen, Intent.layout, Intent.ownOptions, untyped, plain, scanned, type, option, dashT, dashO]

theorem single_options (program word : String) :
    optionsSeen ⟨program, [word]⟩ = [] ↔ dashed word = false := by
  simp [optionsSeen, scanned]

theorem layout_options (wanted : Intent) :
    optionsSeen wanted.layout = wanted.ownOptions ↔ ∀ word ∈ wanted.operands, dashed word = false := by
  cases wanted with
  | mount fsType opts device mountPoint =>
      rw [mount_options]
      simp [Intent.operands]
  | unmount mountPoint =>
      refine (single_options "umount" mountPoint).trans ?_
      simp [Intent.operands]
  | remount opts mountPoint =>
      have option : takesArgument "mount" "-o" = true := rfl
      have dashO : dashed "-o" = true := rfl
      simp [optionsSeen, Intent.layout, Intent.ownOptions, Intent.operands, scanned, option, dashO]
  | check device =>
      have own : takesArgument "fsck" "-n" = false := rfl
      have dashN : dashed "-n" = true := rfl
      simp [optionsSeen, Intent.layout, Intent.ownOptions, Intent.operands, scanned, own, dashN]
  | format fsType device =>
      refine (single_options ("mkfs." ++ fsType) device).trans ?_
      simp [Intent.operands]

theorem mkfs_confined (fsType : String) :
    ("mkfs." ++ fsType ∈ ["mount", "umount", "fsck"] ∨ ∃ other, "mkfs." ++ fsType = "mkfs." ++ other ∧ '/' ∉ other.toList) ↔
      '/' ∉ fsType.toList := by
  obtain ⟨first, second, third⟩ := Intent.mkfs_apart fsType
  apply Iff.intro
  · intro reached
    rcases reached with member | ⟨other, same, plain⟩
    · simp [first, second, third] at member
    · have letters := congrArg String.toList same
      simp only [String.toList_append, List.append_cancel_left_eq] at letters
      rw [letters]
      exact plain
  · intro plain
    exact Or.inr ⟨fsType, rfl, plain⟩

theorem layout_confined_iff (wanted : Intent) : Confined wanted wanted.layout ↔ Harmless wanted := by
  apply Iff.intro
  · intro confined
    refine ⟨(layout_options wanted).mp confined.options, ?_⟩
    intro fsType device same
    subst same
    exact (mkfs_confined fsType).mp confined.program
  · intro harmless
    have options := (layout_options wanted).mpr harmless.undashed
    refine ⟨?_, options, ?_, ?_⟩
    · cases wanted with
      | mount fsType opts device mountPoint => exact Or.inl (by simp [Intent.layout])
      | unmount mountPoint => exact Or.inl (by simp [Intent.layout])
      | remount opts mountPoint => exact Or.inl (by simp [Intent.layout])
      | check device => exact Or.inl (by simp [Intent.layout])
      | format fsType device => exact (mkfs_confined fsType).mpr (harmless.plain fsType device rfl)
    · intro mountPoint same
      subst same
      have undashed := harmless.undashed mountPoint List.mem_cons_self
      exact ⟨rfl, options, by simp [operandsSeen, Intent.layout, scanned, undashed]⟩
    · intro device same
      subst same
      have undashed := harmless.undashed device List.mem_cons_self
      have own : takesArgument "fsck" "-n" = false := rfl
      have dashN : dashed "-n" = true := rfl
      exact ⟨rfl, options, by simp [operandsSeen, Intent.layout, scanned, own, dashN, undashed]⟩

theorem argv_confined_iff (spec : FsSpec) (argv : Executor.Argv) (built : Executor.buildArgv spec = .ok argv) :
    Confined (intent spec) argv ↔ Harmless (intent spec) := by
  rw [build_argv_layout spec argv built]
  exact layout_confined_iff (intent spec)

section Samples

def plainCheck : FsSpec := ⟨"c1", .check, "/dev/sdb1", "/data", "", [], false⟩

theorem plain_check_confined_iff : Confined (intent plainCheck) ⟨"fsck", ["-n", "/dev/sdb1"]⟩ ↔ Harmless (intent plainCheck) :=
  argv_confined_iff plainCheck ⟨"fsck", ["-n", "/dev/sdb1"]⟩ rfl

-- Unmount everything, asked for as one mount point.
def unmountAll : FsRequest := ⟨some "u1", .unmount, "", "-a", "", [], false⟩

def takeAll (_ : NodeId) (_ : NodeCommand) (state : Unit) : Except HpcError Unit × Unit := (.ok (), state)

theorem unmount_all_unconfined :
    (fsCommand (fun _ _ => true) takeAll "0" "n1" unmountAll ()).1 = .ok ⟨true, "u1", "n1"⟩ ∧
      Executor.buildArgv (unmountAll.spec "0") = .ok ⟨"umount", ["-a"]⟩ ∧
      ¬ Confined (intent (unmountAll.spec "0")) ⟨"umount", ["-a"]⟩ := by
  refine ⟨by decide, rfl, ?_⟩
  intro confined
  have none := confined.options
  cases none

end Samples

end Hpc.Agent
