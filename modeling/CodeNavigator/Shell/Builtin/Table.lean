/-
This file lists the commands that a shell does itself, and finds the one that a name means. A shell
with extras does some more.
-/

import CodeNavigator.Shell.Builtin.Control
import CodeNavigator.Shell.Builtin.Lookup
import CodeNavigator.Shell.Builtin.Output
import CodeNavigator.Shell.Builtin.Surroundings
import CodeNavigator.Shell.Builtin.Variables

namespace CodeNavigator.Shell.Builtin

/-- The options of a shell with extras that have only long names. -/
def longOptions : List (String × Char) :=
  [("expand_aliases", aliasLetter), ("nullglob", '\x12'), ("dotglob", '\x13'),
    ("extglob", '\x14'), ("globstar", '\x15'), ("nocasematch", '\x16'), ("nocaseglob", '\x17'),
    ("lastpipe", '\x18'), ("failglob", '\x19'), ("inherit_errexit", '\x1a'),
    ("sourcepath", '\x1b'), ("xpg_echo", '\x1c')]

/-- Turn options of long names on or off, or ask whether they are on. -/
def setLongOptions : Builtin := fun _ arguments => do
  let (options, names) ← options "suqpo" arguments
  setStatus 0
  for name in names do
    match longOptions.find? fun entry => entry.1.toList = name with
    | some (_, letter) =>
      if has 's' options then turn letter true
      else if has 'u' options then turn letter false
      else if !((← get).hasOption letter) then setStatus 1
    | none => complain 1 (remark name "invalid shell option name")

/-- Leave the status as that of success. -/
def succeed : Builtin := fun _ _ =>
  setStatus 0

/-- Leave the status as that of failure. -/
def refuse : Builtin := fun _ _ =>
  setStatus 1

/-- The commands that every shell does itself, except for those that ask for this list. -/
def ordinary : List (String × Builtin) :=
  [(".", includeScript), (":", succeed), ("[", bracket), ("alias", defineAliases), ("bg", foreground),
    ("break", leaveLoop), ("cd", cd), ("chdir", cd), ("continue", nextRound), ("echo", echo),
    ("eval", eval), ("exec", exec), ("exit", exit), ("export", exportVariables),
    ("false", refuse), ("fg", foreground), ("getopts", getopts), ("jobs", jobs), ("kill", kill),
    ("local", localVariables), ("printf", printf), ("pwd", pwd), ("read", readLineInto),
    ("readonly", readonly), ("return", leaveFunction), ("set", setParameters), ("shift", shift),
    ("test", test), ("times", times), ("trap", trap), ("true", succeed), ("ulimit", ulimit),
    ("umask", umask), ("unalias", forgetAliases), ("unset", unset), ("wait", wait)]

/-- The commands that only a shell with extras does itself. -/
def extra : List (String × Builtin) :=
  [("declare", declare), ("disown", succeed), ("let", letValues), ("mapfile", readLines),
    ("readarray", readLines), ("shopt", setLongOptions), ("source", includeScript),
    ("typeset", declare)]

/-- Whether a shell does the command of that name itself. -/
def isKnown (hasExtras : Bool) (name : ByteText) : Bool :=
  ["command", "hash", "type"].any (fun own => own.toList = name) ||
    ordinary.any (fun entry => entry.1.toList = name && (name ≠ "chdir".toList || !hasExtras)) ||
    (hasExtras && (name = "builtin".toList || extra.any fun entry => entry.1.toList = name))

/-- The command of that name that a shell does itself. -/
def find? (hasExtras : Bool) (name : ByteText) : Option Builtin :=
  if !isKnown hasExtras name then none
  else
    let lookups : List (String × Builtin) :=
      [("command", command (isKnown hasExtras)), ("hash", hash (isKnown hasExtras)),
        ("type", type (isKnown hasExtras))]
    ((lookups ++ ordinary ++ extra).find? fun entry => entry.1.toList = name).map Prod.snd

end CodeNavigator.Shell.Builtin
