import Overseer.Files.Standard
import Overseer.Shell.Program
import Overseer.Tools.Blocks
import Overseer.Tools.Columns
import Overseer.Tools.Comparing
import Overseer.Tools.Copies
import Overseer.Tools.Counting
import Overseer.Tools.Dates
import Overseer.Tools.Digests
import Overseer.Tools.Dump
import Overseer.Tools.Editing
import Overseer.Tools.Expression
import Overseer.Tools.Finding
import Overseer.Tools.Listing
import Overseer.Tools.Reporting
import Overseer.Tools.Running
import Overseer.Tools.Searching
import Overseer.Tools.Series
import Overseer.Tools.Sorting

/-!
# The system

The programs that command lines find: the shell, and the tools. A program may launch
others, which ties a knot that is bounded by a depth nothing comes near to.
-/

namespace Overseer.System

/-- A tool that launches no other program. -/
def alone (tool : Tool) : Launch → Tool := fun _ => tool

/-- The programs of the system, by their names. -/
def programs : List (Octets × (Launch → Tool)) :=
  [("sh", Shell.program), ("dash", Shell.program), ("bash", Shell.program),
   ("true", alone Tool.succeed), ("false", alone Tool.failure), ("echo", alone Tool.echo),
   ("printf", alone Tool.printf), ("test", alone Tool.test), ("[", alone Tool.bracket),
   ("yes", alone Tool.yes), ("sleep", alone Tool.sleep), ("basename", alone Tool.basename),
   ("dirname", alone Tool.dirname), ("pwd", alone Tool.pwd), ("uname", alone Tool.uname),
   ("whoami", alone (Tool.say "root")), ("logname", alone (Tool.say "root")),
   ("hostname", alone (Tool.say "localhost")), ("nproc", alone (Tool.say "2")),
   ("arch", alone (Tool.say "x86_64")), ("groups", alone (Tool.say "root")),
   ("hostid", alone (Tool.say "007f0100")), ("sync", alone Tool.succeed),
   ("id", alone Tool.whoIs), ("printenv", alone Tool.printEnvironment),
   ("tty", alone Tool.terminal), ("kill", alone Tool.kill), ("env", Tool.environment),
   ("nice", Tool.nice), ("nohup", Tool.nohup), ("timeout", Tool.timeout),
   ("setsid", fun launch => Tool.plainly launch []),
   ("stdbuf", fun launch => Tool.plainly launch
     [⟨'i', "input", .needed⟩, ⟨'o', "output", .needed⟩, ⟨'e', "error", .needed⟩]),
   ("cat", alone Tool.cat), ("tac", alone Tool.tac), ("rev", alone Tool.rev),
   ("head", alone Tool.head), ("tail", alone Tool.tail), ("tee", alone Tool.tee),
   ("nl", alone Tool.nl), ("paste", alone Tool.paste), ("comm", alone Tool.comm),
   ("wc", alone Tool.wc), ("uniq", alone Tool.uniq), ("cut", alone Tool.cut),
   ("tr", alone Tool.tr), ("fold", alone Tool.fold), ("expand", alone Tool.expand),
   ("unexpand", alone Tool.unexpand), ("mkdir", alone Tool.mkdir), ("rmdir", alone Tool.rmdir),
   ("rm", alone Tool.rm), ("touch", alone Tool.touch), ("chmod", alone Tool.chmod),
   ("chown", alone Tool.chown), ("chgrp", alone Tool.chown), ("ln", alone Tool.ln),
   ("readlink", alone Tool.readlink), ("realpath", alone Tool.realpath),
   ("mktemp", alone Tool.mktemp), ("truncate", alone Tool.truncate), ("cp", alone Tool.cp),
   ("mv", alone Tool.mv), ("install", alone Tool.install), ("ls", alone Tool.ls),
   ("dir", alone Tool.ls), ("stat", alone Tool.stat), ("du", alone Tool.du),
   ("grep", alone Tool.grep), ("egrep", alone Tool.egrep), ("fgrep", alone Tool.fgrep),
   ("seq", alone Tool.seq), ("factor", alone Tool.factor), ("expr", alone Tool.expr),
   ("sort", alone Tool.sort), ("shuf", alone Tool.shuf),
   ("sed", alone Tool.sed), ("md5sum", alone Tool.md5sum), ("sha1sum", alone Tool.sha1sum),
   ("sha224sum", alone Tool.sha224sum), ("sha256sum", alone Tool.sha256sum),
   ("sha384sum", alone Tool.sha384sum), ("sha512sum", alone Tool.sha512sum),
   ("cksum", alone Tool.cksum), ("sum", alone Tool.sum), ("base64", alone Tool.base64),
   ("base32", alone Tool.base32), ("od", alone Tool.od), ("date", alone Tool.date),
   ("xargs", Tool.xargs), ("awk", Tool.awk), ("mawk", Tool.awk), ("find", Tool.find), ("cmp", alone Tool.cmp),
   ("diff", alone Tool.diff), ("dd", alone Tool.dd), ("split", alone Tool.split),
   ("join", alone Tool.join), ("which", alone Tool.which)]

/-- Carries a program out; those that it launches are nested at most so deep. -/
def launchWithin : (depth : Nat) → Launch
  | 0, _, _ => .exit 126
  | depth + 1, name, invocation =>
    match programs.lookup name with
    | some tool => Work.toCourse (tool (launchWithin depth) invocation)
    | none => .exit 126

/-- The depth at which programs that launch each other are given up. -/
def depthLimit : Nat := 1000000

def launch : Launch := launchWithin depthLimit

/-- The file tree that everything starts from, and the folder in it to work in. -/
def disk : FileTree × Nat := FileTree.withWorkFolder (programs.map (·.1))

/-- The environment of the programs. -/
def environment : List (Octets × Octets) :=
  [("PATH", "/usr/local/sbin:/usr/local/bin:/usr/sbin:/usr/bin:/sbin:/bin"), ("HOME", "/root"),
   ("PWD", FileTree.workPath)]

end Overseer.System
