import LoginGate.Bus.Client
import LoginGate.Host.Pam
import LoginGate.Simulation.Bus
import LoginGate.Simulation.Names

namespace LoginGate

/-!
# A simulated host of the Linux-PAM module
-/

/-- A simulated host: the user that it names, its name service and its bus. -/
structure SimulatedHost where
  user : UserAnswer
  names : SimulatedNames
  bus : SimulatedBus

namespace SimulatedHost

/-- The bus of the host. -/
def busServer : BusServer SimulatedHost :=
  SimulatedBus.server.within bus fun changed world => { world with bus := changed }

/-- The host of prepared answers. -/
def host : PamHost SimulatedHost where
  user world :=
    (world.user, world)
  names :=
    (SimulatedNames.service.within names fun changed world =>
      { world with names := changed }).library
  bus :=
    busServer.library
  pam :=
    .strict

end SimulatedHost

end LoginGate
