import Hpc.Ffi.Atomic

set_option autoImplicit false

namespace Hpc.Ffi

open Hpc.Core Hpc.Lib

-- The rest of what the shim and its callers ask of the system: directories, open, fsync and unlink.
structure Native (K : Type) extends Posix K where
  createDirAll : String → K → Option String × K
  openAt : String → Bool → K → Transfer Int32 × K
  fsync : Int32 → K → Option Errno × K
  unlink : String → K → K
  fsync_keeps : ∀ fd kernel, content fd (fsync fd kernel).2 = content fd kernel

section Calls

variable {K : Type} (native : Native K) (osError : Int32 → String)

def BlockFile.openPath (path : String) (create : Bool) (kernel : K) : Except HpcError BlockFile × K :=
  if path.toList.contains '\x00' then (.error (.ffi ("path contains NUL byte: " ++ path)), kernel)
  else
    match native.openAt path create kernel with
    | (.moved fd, next) => (.ok ⟨fd⟩, next)
    | (.failed errno, next) => (.error (errnoError osError ("open " ++ path) (negated errno)), next)

def BlockFile.sync (file : BlockFile) (kernel : K) : Except HpcError Unit × K :=
  match native.fsync file.fd kernel with
  | (none, next) => (.ok (), next)
  | (some errno, next) => (.error (errnoError osError "sync_fs" (negated errno)), next)

theorem sync_keeps (file : BlockFile) (kernel : K) :
    native.content file.fd (file.sync native osError kernel).2 = native.content file.fd kernel := by
  have kept := native.fsync_keeps file.fd kernel
  rw [BlockFile.sync]
  cases synced : native.fsync file.fd kernel with
  | mk failure next =>
      rw [synced] at kept
      cases failure with
      | none => exact kept
      | some errno => exact kept

end Calls

end Hpc.Ffi
