import Hpc.Core.Types

set_option autoImplicit false

namespace Hpc.Core

structure Duration where
  secs : UInt64
  nanos : UInt32
  carried : nanos.toNat < 1000000000

def Duration.asSecs (d : Duration) : UInt64 := d.secs

structure Thresholds (F : Type) where
  cpuDegraded : F
  memoryDegraded : F
  diskDegraded : F
  loadPerCoreDegraded : F

-- The fields the daemon's state reads; addresses, paths and logging are not used by it.
structure DaemonConfig (F : Type) where
  nodeTimeout : Duration
  metricsInterval : Duration
  thresholds : Thresholds F

end Hpc.Core
