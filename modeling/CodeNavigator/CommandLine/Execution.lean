/-
This file runs the program on a world. The commands of the oracle are started with the files of the
world and inherit its environment.
-/

import CodeNavigator.CommandLine.World
import CodeNavigator.Launcher

namespace CodeNavigator.CommandLine

/-- What runs the commands in a world. -/
def World.runner (world : World) : Runner :=
  Launcher.runner ⟨world.tree, world.place, Launcher.standardEnvironment ++ world.environment⟩

/-- The engine that works on a world. -/
def World.engine (world : World) (settings : Settings) : Engine :=
  world.engineOn world.runner settings

/-- What the program ends with, if it ends. -/
def run (world : World) (arguments : List String) : Option Ending :=
  match Invocation.read world.environment arguments with
  | none => some .misuse
  | some .help => some (.success usage)
  | some .version => some (.success version)
  | some (.run settings order) => follow world world.runner settings order

end CodeNavigator.CommandLine
