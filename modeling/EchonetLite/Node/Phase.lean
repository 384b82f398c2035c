/-!
The phases in the life of a hosted node.
-/
namespace EchonetLite

inductive Phase where
  | stopped
  | starting
  | running
  | stopping
deriving DecidableEq, Repr

def Phase.text : Phase → String
  | stopped => "stopped"
  | starting => "starting"
  | running => "running"
  | stopping => "stopping"

end EchonetLite
