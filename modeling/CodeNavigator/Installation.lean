/-
This file says which programs there are and where they stand. A compiled program stands in a file
that names it, so a file that is copied, linked or made executable is found by the same rules as any
other. The program that a started one asks for is started one level deeper, and the number of levels
is limited.
-/

import CodeNavigator.FileTree.Layout
import CodeNavigator.Shell.Invocation
import CodeNavigator.Utility.Digests
import CodeNavigator.Utility.Dumping
import CodeNavigator.Utility.Editing
import CodeNavigator.Utility.Fields
import CodeNavigator.Utility.Files
import CodeNavigator.Utility.Lines
import CodeNavigator.Utility.Messages
import CodeNavigator.Utility.Numbers
import CodeNavigator.Utility.Ordering
import CodeNavigator.Utility.Paths
import CodeNavigator.Utility.Running
import CodeNavigator.Utility.Searching
import CodeNavigator.Utility.Selecting

namespace CodeNavigator.Installation

/-! ### Programs -/

/-- The compiled programs, except for those that start others. -/
def utilities : List (String × Utility) :=
  Utility.digestPrograms ++
  [("[", Utility.bracket), ("base32", Utility.letteringWith Utility.fiveBits),
    ("base64", Utility.letteringWith Utility.sixBits), ("basename", Utility.basename),
    ("cat", Utility.cat), ("chmod", Utility.chmod), ("cksum", Utility.cksum),
    ("comm", Utility.comm), ("cp", Utility.cp), ("cut", Utility.cut),
    ("dirname", Utility.dirname), ("echo", Utility.echo), ("egrep", Utility.grepWith ['E']),
    ("expr", Utility.expr), ("factor", Utility.factor), ("false", Utility.refuse),
    ("fgrep", Utility.grepWith ['F']), ("fold", Utility.fold), ("grep", Utility.grepWith []),
    ("head", Utility.head), ("ln", Utility.ln), ("ls", Utility.ls), ("mkdir", Utility.mkdir),
    ("mktemp", Utility.mktemp), ("mv", Utility.mv), ("nl", Utility.nl), ("od", Utility.od), ("paste", Utility.paste),
    ("printenv", Utility.printenv), ("printf", Utility.printf), ("pwd", Utility.pwd),
    ("readlink", Utility.readlink), ("realpath", Utility.realpath), ("rev", Utility.rev),
    ("rm", Utility.rm), ("rmdir", Utility.rmdir), ("sed", Utility.sed), ("seq", Utility.seq), ("sleep", Utility.sleep),
    ("sort", Utility.sort), ("stat", Utility.stat), ("sum", Utility.sum), ("tac", Utility.tac), ("tail", Utility.tail),
    ("tee", Utility.tee), ("test", Utility.test), ("touch", Utility.touch), ("tr", Utility.tr),
    ("true", Utility.succeed), ("uniq", Utility.uniq), ("unlink", Utility.unlink),
    ("wc", Utility.wc), ("yes", Utility.yes)]

/-- The compiled programs that start others. -/
def starters : List (String × (Start → Utility)) :=
  [("bash", fun start call => Shell.run true start call.name call.arguments),
    ("dash", fun start call => Shell.run false start call.name call.arguments),
    ("env", Utility.env), ("find", Utility.select), ("nice", Utility.nice), ("nohup", Utility.nohup),
    ("sh", fun start call => Shell.run false start call.name call.arguments),
    ("timeout", Utility.timeout), ("xargs", Utility.xargs)]

/-- All compiled programs by their names. -/
def programs : List (String × (Start → Utility)) :=
  starters ++ utilities.map fun (name, utility) => (name, fun _ => utility)

/-- How programs are started, at most so deep inside of each other. -/
def launch : Nat → Start
  | 0 => fun _ _ => throw .exhausted
  | depth + 1 => fun program arguments =>
    match programs.find? fun entry => entry.1 = program.name with
    | some (_, utility) =>
      utility (launch depth) ⟨program.called, program.leading ++ arguments⟩
    | none => throw (.exited 127)

/-- How deep programs may start each other. -/
def depthLimit : Nat := 200

/-! ### Files -/

/-- The files of the compiled programs. -/
def programFiles : List (String × FileTree) :=
  programs.map fun (name, _) => (name, .file .executable (Program.content name))

/-- The devices. -/
def devices : List (String × FileTree) :=
  [("null", .device .null), ("zero", .device .zero), ("full", .device .full),
    ("stdin", .device (.descriptor 0)), ("stdout", .device (.descriptor 1)),
    ("stderr", .device (.descriptor 2)),
    ("fd", .directory .fixed ((List.range 10).map fun number =>
      (toString number, .device (.descriptor number))))]

/-- The tree before anything else is put into it. -/
def tree : FileTree :=
  .directory .fixed
    [("bin", .link ⟨"usr/bin"⟩), ("dev", .directory .fixed devices),
      ("etc", .directory .fixed []), ("home", .directory .fixed []),
      ("root", .directory ⟨0o700⟩ []), ("sbin", .link ⟨"usr/sbin"⟩),
      ("tmp", .directory ⟨0o1777⟩ [("work", .directory .executable [])]),
      ("usr", .directory .fixed [("bin", .directory .fixed programFiles),
        ("local", .directory .fixed [("bin", .directory .fixed [])]),
        ("sbin", .directory .fixed [])]),
      ("var", .directory .fixed [("tmp", .directory ⟨0o1777⟩ [])])]

/-- The directory in which everything begins. -/
def workPlace : FileTree.Place :=
  ["work", "tmp"]

end CodeNavigator.Installation
